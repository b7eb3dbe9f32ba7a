/-
# `StoryScript.Proofs.Code.Identifiers` — names that stand in the code

The code has two kinds of names that come from the script: the classes are called after the
scenes, and the methods after the speakers.  Neither kind is made with the rules of an
identifier in mind:

    ## Who is there?       Who_is_there?     some marks are no separators, and stay
    ## 1st day             1st_day           nor does a digit have to wait
    10:30 The train.       Dialog.10(...)    whatever is alphanumeric speaks

So an ASCII heading makes an identifier, or no name, exactly if it has nothing but separators,
letters and digits, with no digit first (`name_isIdentifier_iff`); and the methods of a script
are identifiers exactly if nobody is heard whose name starts with a digit
(`methods_isIdentifier_iff`).  For the renaming it is enough that the token is an identifier,
as the words that give way to it are made of letters.
-/
import Mathlib.Data.Bool.AllAny
import StoryScript.Proofs.Code.Calls
import StoryScript.Proofs.Scene.Parts

namespace StoryScript

namespace Text

/-! ## Identifiers -/

/-- What an identifier may go on with. -/
def isIdentifierChar (c : Char) : Bool := c.isAlphanum || c == '_'

/-- A letter or an underscore, then letters, digits and underscores. -/
def isIdentifier : Text → Bool
  | [] => false
  | c :: rest => (c.isAlpha || c == '_') && rest.all isIdentifierChar

theorem isIdentifier_append {front : Text} (h : front ≠ []) (back : Text) :
    isIdentifier (front ++ back) = (isIdentifier front && back.all isIdentifierChar) := by
  cases front with
  | nil => exact absurd rfl h
  | cons c rest => rw [List.cons_append, isIdentifier, isIdentifier, List.all_append, Bool.and_assoc]

theorem isIdentifier_cons_iff {c : Char} {rest : Text} :
    isIdentifier (c :: rest) = true ↔
      c.isDigit = false ∧ ∀ x ∈ c :: rest, isIdentifierChar x = true := by
  have hstart : (c.isAlpha || c == '_') = true ↔
      c.isDigit = false ∧ isIdentifierChar c = true := by
    rw [isIdentifierChar, Char.isAlphanum]
    cases hdigit : c.isDigit with
    | false => simp
    | true =>
        have halpha : ¬ c.isAlpha = true := by
          intro halpha
          rw [isDigit_of_isAlpha halpha] at hdigit
          cases hdigit
        have hne : c ≠ '_' := by
          rintro rfl
          cases hdigit
        simp [halpha, hne]
  rw [isIdentifier, Bool.and_eq_true, hstart, List.all_eq_true, List.forall_mem_cons, and_assoc]

theorem isIdentifier_iff_of_isAlphanum {t : Text} (hne : t ≠ [])
    (h : ∀ c ∈ t, c.isAlphanum = true) :
    isIdentifier t = true ↔ ∀ c ∈ t.head?, c.isDigit = false := by
  obtain ⟨c, rest, rfl⟩ := List.exists_cons_of_ne_nil hne
  have hall : ∀ x ∈ c :: rest, isIdentifierChar x = true := by
    intro x hx
    rw [isIdentifierChar, h x hx]
    rfl
  rw [isIdentifier_cons_iff, and_iff_left hall, List.head?_cons]
  simp

end Text

namespace Scene

/-! ## Names of scenes -/

section

variable {token heading : Text}

theorem isIdentifier_of_isSceneWord {s c e n a : Char} (h : isSceneWord s c e n a = true)
    (hascii : s.toNat < 128) : Text.isIdentifier [s, c, e, n, a] = true := by
  have hletter {letters : List Char} (hl : letters.all Char.isAlpha = true) {x : Char}
      (hx : x ∈ letters) : x.isAlpha = true := List.all_eq_true.mp hl x hx
  simp only [isSceneWord, Bool.and_eq_true, decide_eq_true_eq] at h
  obtain ⟨⟨⟨⟨hs, hc⟩, he⟩, hn⟩, ha⟩ := h
  have hs : s ∈ ['s', 'S'] := by
    simp only [List.mem_cons, List.not_mem_nil, or_false] at hs ⊢
    rcases hs with rfl | rfl | rfl
    · exact Or.inl rfl
    · exact Or.inr rfl
    · exact absurd hascii (by decide)
  simp only [Text.isIdentifier, Text.isIdentifierChar, Char.isAlphanum, List.all_cons,
    List.all_nil, hletter rfl hs, hletter rfl hc, hletter rfl he, hletter rfl hn, hletter rfl ha,
    Bool.true_or, Bool.and_self]

theorem isIdentifier_renamed (htoken : Text.isIdentifier token = true) {t : Text}
    (hascii : ∀ c ∈ t.head?, c.toNat < 128) :
    Text.isIdentifier (renamed token t) = Text.isIdentifier t := by
  rcases renamed_cases token t with hsame | ⟨s, c, e, n, a, rest, hword, rfl, hrest⟩
  · rw [hsame]
  · have hne : token ≠ [] := by
      rintro rfl
      cases htoken
    rw [hrest, Text.isIdentifier_append hne, Text.isIdentifier_append (List.cons_ne_nil _ _),
      htoken, isIdentifier_of_isSceneWord hword (hascii s rfl)]

theorem head?_plainName_eq (heading : Text) :
    (plainName heading).head? = (heading.dropWhile isSeparator).head? := by
  rw [plainName, stripped, dropWhile_squeezed]
  have hhead := Text.head?_dropWhile isSeparator heading
  cases hdrop : heading.dropWhile isSeparator with
  | nil => rfl
  | cons c rest =>
      rw [hdrop] at hhead
      have hc : ¬ isSeparator c = true := fun hc => hhead (congrArg some hc)
      have hkept := ne_underscore hc
      rw [underscored_cons_of_neg hc, squeezed_cons fun h => absurd h hkept,
        Text.dropEndWhile_cons, if_neg fun h => hkept (beq_iff_eq.mp h.2)]
      rfl

theorem name_eq_nil_iff : name token heading = [] ↔ ∀ c ∈ heading, isSeparator c = true := by
  rw [name, renamed_eq_nil_iff, ← List.head?_eq_none_iff, head?_plainName_eq,
    List.head?_eq_none_iff, List.dropWhile_eq_nil_iff]

theorem isIdentifierChar_plainName_iff :
    (∀ c ∈ plainName heading, Text.isIdentifierChar c = true) ↔
      ∀ c ∈ heading, isSeparator c = true ∨ c.isAlphanum = true := by
  constructor
  · intro h c hc
    cases hsep : isSeparator c with
    | true => exact Or.inl rfl
    | false =>
        have hchar := h c ((mem_plainName_iff hsep).mpr hc)
        have hne : c ≠ '_' := ne_underscore (Bool.eq_false_iff.mp hsep)
        rw [Text.isIdentifierChar, beq_eq_false_iff_ne.mpr hne, Bool.or_false] at hchar
        exact Or.inr hchar
  · intro h c hc
    by_cases hne : c = '_'
    · rw [hne]
      rfl
    · have hsep : isSeparator c = false := by
        rw [Bool.eq_false_iff]
        exact fun hsep => not_mem_plainName hsep hne heading hc
      have halphanum := (h c ((mem_plainName_iff hsep).mp hc)).resolve_left
        (Bool.eq_false_iff.mp hsep)
      rw [Text.isIdentifierChar, halphanum]
      rfl

end

/-- **The headings that make an identifier.**  Let the token be an identifier, and the heading
be of ASCII.  There is no name if the heading has nothing but separators; and the name is an
identifier, if there is one, exactly if the heading has nothing but separators, letters and
digits, and no digit is the first that is no separator. -/
theorem name_isIdentifier_iff (token heading : Text) (htoken : Text.isIdentifier token = true)
    (hascii : ∀ c ∈ heading, c.toNat < 128) :
    (name token heading = [] ↔ ∀ c ∈ heading, isSeparator c = true) ∧
      (name token heading = [] ∨ Text.isIdentifier (name token heading) = true ↔
        (∀ c ∈ heading, isSeparator c = true ∨ c.isAlphanum = true) ∧
        ∀ c ∈ (heading.dropWhile isSeparator).head?, c.isDigit = false) := by
  refine ⟨name_eq_nil_iff, ?_⟩
  rw [← isIdentifierChar_plainName_iff, ← head?_plainName_eq, name, renamed_eq_nil_iff]
  have hhead : ∀ c ∈ (plainName heading).head?, c.toNat < 128 := by
    rw [head?_plainName_eq]
    exact fun c hc => hascii c ((List.dropWhile_sublist _).subset (List.mem_of_mem_head? hc))
  rw [isIdentifier_renamed htoken hhead]
  cases plainName heading with
  | nil =>
      exact iff_of_true (Or.inl rfl)
        ⟨fun _ h => absurd h List.not_mem_nil, fun c h => absurd h (Option.not_mem_none c)⟩
  | cons c rest =>
      rw [or_iff_right (List.cons_ne_nil c rest), Text.isIdentifier_cons_iff, and_comm,
        List.head?_cons]
      simp

/-- The word that gives way, a mark that is a separator, and a digit that is not the first. -/
theorem name_isIdentifier_iff_the_end :
    let token := "Story".toList
    let heading := "scene 3: the end".toList
    Text.isIdentifier token = true ∧ (∀ c ∈ heading, c.toNat < 128) ∧
      (name token heading = [] ∨ Text.isIdentifier (name token heading) = true) := by
  intro token heading
  have htoken : Text.isIdentifier token = true := rfl
  have hascii : ∀ c ∈ heading, c.toNat < 128 := List.all_iff_forall_prop.mp rfl
  have hheading : ∀ c ∈ heading, isSeparator c = true ∨ c.isAlphanum = true :=
    List.all_iff_forall_prop.mp rfl
  have hfirst : ∀ c ∈ (heading.dropWhile isSeparator).head?, c.isDigit = false := by
    rintro c ⟨⟩
    rfl
  obtain ⟨-, hname⟩ := name_isIdentifier_iff token heading htoken hascii
  exact ⟨htoken, hascii, hname.mpr ⟨hheading, hfirst⟩⟩

/-- The question mark stays in the name of `Who is there?`, which is no identifier. -/
theorem name_isIdentifier_iff_who_is_there :
    let token := "Story".toList
    let heading := "Who is there?".toList
    Text.isIdentifier token = true ∧ (∀ c ∈ heading, c.toNat < 128) ∧
      name token heading = "Who_is_there?".toList ∧
      ¬ (name token heading = [] ∨ Text.isIdentifier (name token heading) = true) :=
  ⟨rfl, List.all_iff_forall_prop.mp rfl, by decide, by decide⟩

/-- The marks of ASCII that are no separators. -/
example : ((List.range' 33 94).map Char.ofNat).filter
    (fun c => !isSeparator c && !c.isAlphanum) = "()+<=>?`|~".toList := by decide

end Scene

/-! ## Names of methods -/

/-- **The scripts whose methods are identifiers.**  After a success the methods that the
scenes call are the methods of the helper.  Each has a name of letters and digits, which is an
identifier unless a digit is first; so all of them are identifiers exactly if no line of a
live scene is spoken by one whose name starts with a digit. -/
theorem methods_isIdentifier_iff (cfg : Config) (text : Text) (m : Memory) (r : Report)
    (s : Session Memory) (htoken : '\n' ∉ cfg.sceneToken)
    (hok : compileText cfg text m = (.ok r, s)) :
    ∃ scenes helper body,
      s.sink.files = m.files ++ scenes ++
        [(cfg.transitionFile, Code.transitionClass), (cfg.dialogFile, helper)] ∧
      scenes.map (·.1) = r.scenes.map cfg.scenePath ∧
      Script.body? cfg (Script.lines text) = some body ∧
      (∀ name, (∃ file ∈ scenes, name ∈ calls file.2) ↔ name ∈ methods helper) ∧
      (∀ name ∈ methods helper, name ≠ [] ∧ (∀ c ∈ name, c.isAlphanum = true) ∧
        (Text.isIdentifier name = true ↔ ∀ c ∈ name.head?, c.isDigit = false)) ∧
      ((∀ name ∈ methods helper, Text.isIdentifier name = true) ↔
        ∀ sec ∈ Script.liveSections cfg body, ∀ d, .say d ∈ sec.statements →
          ∀ c ∈ d.speaker.head?, c.isDigit = false) := by
  obtain ⟨body, hbody, rfl, hfiles⟩ := exists_files_of_compileText_eq_ok hok
  have hnames : ∀ name ∈ Script.speakers cfg body, name ≠ [] ∧
      (∀ c ∈ name, c.isAlphanum = true) ∧
      (Text.isIdentifier name = true ↔ ∀ c ∈ name.head?, c.isDigit = false) := by
    intro name hname
    obtain ⟨sec, hsec, hmem⟩ := Script.mem_speakers.mp hname
    have hne := Section.ne_nil_of_mem_speakers hbody hsec hmem
    have halphanum := Section.isAlphanum_of_mem_speakers hbody hsec hmem
    exact ⟨hne, halphanum, Text.isIdentifier_iff_of_isAlphanum hne halphanum⟩
  have hmethods := methods_dialogClass fun name hname => (hnames name hname).2.1
  refine ⟨(Script.liveSections cfg body).map (·.file cfg), _, body, hfiles, ?_, hbody, ?_, ?_, ?_⟩
  · rw [← Script.map_name_liveSections, List.map_map, List.map_map]
    rfl
  · intro name
    rw [hmethods, Script.mem_speakers]
    constructor
    · rintro ⟨file, hfile, hname⟩
      obtain ⟨sec, hsec, rfl⟩ := List.mem_map.mp hfile
      exact ⟨sec, hsec, Section.calls_code htoken hbody hsec ▸ hname⟩
    · rintro ⟨sec, hsec, hname⟩
      exact ⟨sec.file cfg, List.mem_map_of_mem hsec,
        (Section.calls_code htoken hbody hsec).symm ▸ hname⟩
  · rwa [hmethods]
  · rw [hmethods]
    constructor
    · intro h sec hsec d hd
      have hspeaker : d.speaker ∈ Script.speakers cfg body :=
        Script.mem_speakers.mpr ⟨sec, hsec, List.mem_filterMap.mpr ⟨_, hd, rfl⟩⟩
      exact (hnames _ hspeaker).2.2.mp (h _ hspeaker)
    · intro h name hname
      obtain ⟨sec, hsec, hmem⟩ := Script.mem_speakers.mp hname
      obtain ⟨statement, hstatement, hspeaker⟩ := List.mem_filterMap.mp hmem
      obtain ⟨d, rfl, rfl⟩ := Statement.speaker?_eq_some_iff.mp hspeaker
      exact (hnames _ hname).2.2.mpr (h sec hsec d hstatement)

/-- A speaker whose name has digits in it, but none first. -/
theorem methods_isIdentifier_iff_r2d2 :
    let text := "# Script\n## Day\nR2D2: Beep.\n".toList
    let helper := Code.dialogClass ["R2D2".toList]
    '\n' ∉ ({} : Config).sceneToken ∧ ∃ r s, compileText {} text ({} : Memory) = (.ok r, s) ∧
      (∃ front, s.sink.files = front ++ [(⟨"Dialog.cs".toList⟩, helper)]) ∧
      methods helper = ["R2D2".toList] ∧
      ∀ name ∈ methods helper, Text.isIdentifier name = true := by
  intro text helper
  have htoken : '\n' ∉ ({} : Config).sceneToken := by decide
  let scene : Section := ⟨"Day".toList, [.statement (.say ⟨"R2D2".toList, "Beep.".toList⟩)]⟩
  have hok : compileText {} text ({} : Memory) =
      (.ok ⟨["Day".toList], ["R2D2".toList],
        [⟨"Scenes/Day.cs".toList⟩, ⟨"Transition.cs".toList⟩, ⟨"Dialog.cs".toList⟩]⟩,
        (compileText {} text ({} : Memory)).2) := rfl
  have hwritten : (compileText {} text ({} : Memory)).2.sink.files = [scene.file {}] ++
      [(Config.transitionFile {}, Code.transitionClass), (Config.dialogFile {}, helper)] := rfl
  have hmethods : methods helper = ["R2D2".toList] :=
    methods_dialogClass (List.forall_mem_singleton.mpr (List.all_eq_true.mp rfl))
  obtain ⟨scenes, other, body, hfiles, -, hbody, -, -, hall⟩ :=
    methods_isIdentifier_iff {} text {} _ _ htoken hok
  cases List.append_inj_right' (hwritten.symm.trans hfiles) rfl
  have hlive : Script.liveSections {} body = [scene] := by
    cases hbody
    rfl
  refine ⟨htoken, _, _, hok, ⟨[_, _], hwritten⟩, hmethods, hall.mpr ?_⟩
  rw [hlive, List.forall_mem_singleton]
  intro d hd
  cases List.mem_singleton.mp hd
  rintro c ⟨⟩
  rfl

/-- A line that starts with the time of day is spoken by `10`, which is no identifier. -/
theorem methods_isIdentifier_iff_half_past_ten :
    let text := "# Script\n## Day\n10:30 The train leaves.\n".toList
    let scene := Code.opening "Day".toList ++
      "\n        Dialog.10(\"30 The train leaves.\");\n".toList ++ Code.closing
    let helper := Code.dialogClass ["10".toList]
    (∃ r s, compileText {} text ({} : Memory) = (.ok r, s) ∧
      s.sink.files = [(⟨"Scenes/Day.cs".toList⟩, scene),
        (⟨"Transition.cs".toList⟩, Code.transitionClass), (⟨"Dialog.cs".toList⟩, helper)]) ∧
    calls scene = ["10".toList] ∧ methods helper = ["10".toList] ∧
      Text.isIdentifier "10".toList = false := by
  intro text scene helper
  have hok : compileText {} text ({} : Memory) =
      (.ok ⟨["Day".toList], ["10".toList],
        [⟨"Scenes/Day.cs".toList⟩, ⟨"Transition.cs".toList⟩, ⟨"Dialog.cs".toList⟩]⟩,
        (compileText {} text ({} : Memory)).2) := rfl
  let sec : Section :=
    ⟨"Day".toList, [.statement (.say ⟨"10".toList, "30 The train leaves.".toList⟩)]⟩
  have hbody : Script.body? {} (Script.lines text) = some (.scene sec.heading :: sec.lines) := rfl
  have hlive : sec ∈ Script.liveSections {} (.scene sec.heading :: sec.lines) :=
    List.mem_cons_self
  have hcalls : calls (sec.code {}) = ["10".toList] :=
    Section.calls_code (by decide) hbody hlive
  have hmethods : methods helper = ["10".toList] :=
    methods_dialogClass (List.forall_mem_singleton.mpr (List.all_eq_true.mp rfl))
  exact ⟨⟨_, _, hok, rfl⟩, hcalls, hmethods, rfl⟩

end StoryScript
