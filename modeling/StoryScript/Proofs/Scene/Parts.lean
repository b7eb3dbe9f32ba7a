/-
# `StoryScript.Proofs.Scene.Parts` — a scene's name, made from the parts of its heading

A name is made in four passes over the heading.  What comes of them is told at once by
the parts of the heading, its longest runs without a separator:

    heading    "  [Act 1] --- {Dawn}  "      "scene 3: the end"
    parts      Act   1   Dawn                scene   3   the   end
    name       Act_1_Dawn                    Story_3_the_end

The name is the parts with an underscore between them, and only the first part can give
way to the token, if there is another one behind it (`name_eq_intercalate`).

The passes are followed from the front to the end, over a text that is not cut off there:
its first part stands for itself and each later one brings an underscore along
(`dropEndWhile_squeezed`).  Cutting off the front first leaves such a text.
-/
import StoryScript.Proofs.Scene.Name
import StoryScript.Proofs.Scene.Word

namespace StoryScript.Scene

/-! ## The parts of a heading -/

/-- The longest runs without a separator. -/
def parts (heading : Text) : List Text := (heading.splitOnP isSeparator).filter (· != [])

theorem parts_cons_of_isSeparator {c : Char} (hc : isSeparator c = true) (rest : Text) :
    parts (c :: rest) = parts rest := by
  rw [parts, List.splitOnP_cons_eq_if_modifyHead, if_pos hc]
  rfl

theorem parts_dropWhile (t : Text) : parts (t.dropWhile isSeparator) = parts t := by
  induction t with
  | nil => rfl
  | cons c rest ih =>
      by_cases hc : isSeparator c = true
      · rw [List.dropWhile_cons_of_pos hc, ih, parts_cons_of_isSeparator hc]
      · rw [List.dropWhile_cons_of_neg hc]

theorem not_mem_of_mem_splitOnP {t part : Text} {c : Char} (hc : isSeparator c = true)
    (h : part ∈ t.splitOnP isSeparator) : c ∉ part := by
  induction t generalizing part with
  | nil =>
      rw [List.splitOnP_nil, List.mem_singleton] at h
      rw [h]
      exact List.not_mem_nil
  | cons d rest ih =>
      obtain ⟨first, more, h'⟩ := List.exists_cons_of_ne_nil (List.splitOnP_ne_nil isSeparator rest)
      rw [List.splitOnP_cons_eq_if_modifyHead, h'] at h
      rw [h'] at ih
      split at h
      · rcases List.mem_cons.mp h with rfl | h
        · exact List.not_mem_nil
        · exact ih h
      · rename_i hd
        rcases List.mem_cons.mp h with rfl | h
        · rw [List.mem_cons, not_or]
          exact ⟨fun hcd => hd (hcd ▸ hc), ih List.mem_cons_self⟩
        · exact ih (List.mem_cons_of_mem _ h)

theorem not_mem_of_mem_parts {t part : Text} {c : Char} (hc : isSeparator c = true)
    (h : part ∈ parts t) : c ∉ part :=
  not_mem_of_mem_splitOnP hc (List.mem_filter.mp h).1

theorem ne_nil_of_mem_parts {t part : Text} (h : part ∈ parts t) : part ≠ [] :=
  bne_iff_ne.mp (List.mem_filter.mp h).2

/-! ## The passes -/

section Passes

variable {c : Char} {rest : Text}

theorem underscored_cons_of_pos (h : isSeparator c = true) :
    underscored (c :: rest) = '_' :: underscored rest := by
  rw [underscored, List.map_cons, if_pos h]
  rfl

theorem underscored_cons_of_neg (h : ¬ isSeparator c = true) :
    underscored (c :: rest) = c :: underscored rest := by
  rw [underscored, List.map_cons, if_neg h]
  rfl

theorem squeezed_cons (h : c = '_' → rest.head? ≠ some '_') :
    squeezed (c :: rest) = c :: squeezed rest := by
  rw [squeezed, if_neg]
  exact fun hrun => h hrun.1 hrun.2

theorem squeezed_run : squeezed ('_' :: '_' :: rest) = squeezed ('_' :: rest) := by
  rw [squeezed, if_pos ⟨rfl, rfl⟩]

theorem ne_underscore (h : ¬ isSeparator c = true) : c ≠ '_' :=
  fun hc => h (hc ▸ rfl)

end Passes

/-- **A text that is not cut off at the front.**  Its first part stands for itself, though
it may be empty, and each later one has an underscore in front of it. -/
theorem dropEndWhile_squeezed {t part : Text} {more : List Text}
    (h : t.splitOnP isSeparator = part :: more) :
    Text.dropEndWhile (· == '_') (squeezed (underscored t)) =
      part ++ (more.filter (· != [])).flatMap ('_' :: ·) := by
  induction t generalizing part more with
  | nil =>
      rw [List.splitOnP_nil] at h
      cases h
      rfl
  | cons c rest ih =>
      obtain ⟨next, others, h'⟩ :=
        List.exists_cons_of_ne_nil (List.splitOnP_ne_nil isSeparator rest)
      have hrest := ih h'
      rw [List.splitOnP_cons_eq_if_modifyHead, h'] at h
      by_cases hc : isSeparator c = true
      · rw [if_pos hc] at h
        cases h
        rw [underscored_cons_of_pos hc]
        cases rest with
        | nil =>
            rw [List.splitOnP_nil] at h'
            cases h'
            rfl
        | cons d rest =>
            rw [List.splitOnP_cons_eq_if_modifyHead] at h'
            by_cases hd : isSeparator d = true
            · -- a run of separators: the part between them is empty
              rw [if_pos hd] at h'
              cases h'
              rw [underscored_cons_of_pos hd, squeezed_run, ← underscored_cons_of_pos hd, hrest]
              rfl
            · -- the only separator in front of a part
              obtain ⟨first, last, hd'⟩ :=
                List.exists_cons_of_ne_nil (List.splitOnP_ne_nil isSeparator rest)
              rw [if_neg hd, hd'] at h'
              cases h'
              have hhead : (underscored (d :: rest)).head? ≠ some '_' := by
                rw [underscored_cons_of_neg hd]
                exact fun h => ne_underscore hd (Option.some.inj h)
              rw [squeezed_cons fun _ => hhead, Text.dropEndWhile_cons, hrest, if_neg]
              · rfl
              · exact fun h => List.cons_ne_nil _ _ h.1
      · rw [if_neg hc] at h
        cases h
        rw [underscored_cons_of_neg hc, squeezed_cons fun h => absurd h (ne_underscore hc),
          Text.dropEndWhile_cons, hrest, if_neg]
        · rfl
        · exact fun h => ne_underscore hc (beq_iff_eq.mp h.2)

theorem dropWhile_squeezed (t : Text) :
    (squeezed (underscored t)).dropWhile (· == '_') =
      squeezed (underscored (t.dropWhile isSeparator)) := by
  induction t with
  | nil => rfl
  | cons c rest ih =>
      by_cases hc : isSeparator c = true
      · rw [List.dropWhile_cons_of_pos hc, ← ih, underscored_cons_of_pos hc, squeezed]
        split
        · rfl
        · rfl
      · rw [List.dropWhile_cons_of_neg hc, underscored_cons_of_neg hc,
          squeezed_cons fun h => absurd h (ne_underscore hc), List.dropWhile_cons_of_neg]
        exact fun h => ne_underscore hc (beq_iff_eq.mp h)

theorem intercalate_cons (part : Text) (more : List Text) :
    List.intercalate ['_'] (part :: more) = part ++ more.flatMap ('_' :: ·) := by
  induction more generalizing part with
  | nil => rw [List.intercalate_singleton, List.flatMap_nil, List.append_nil]
  | cons next more ih =>
      rw [List.intercalate_cons_cons, ih, List.flatMap_cons, List.append_assoc]
      rfl

/-- **The name before any renaming** is the parts of the heading with underscores between
them. -/
theorem plainName_eq_intercalate (heading : Text) :
    plainName heading = List.intercalate ['_'] (parts heading) := by
  rw [plainName, stripped, dropWhile_squeezed, ← parts_dropWhile]
  have hhead := Text.head?_dropWhile isSeparator heading
  generalize heading.dropWhile isSeparator = t at hhead ⊢
  cases t with
  | nil => rfl
  | cons c rest =>
      obtain ⟨first, more, h⟩ :=
        List.exists_cons_of_ne_nil (List.splitOnP_ne_nil isSeparator rest)
      have hc : ¬ isSeparator c = true := fun hc => hhead (congrArg some hc)
      have hparts : (c :: rest).splitOnP isSeparator = (c :: first) :: more := by
        rw [List.splitOnP_cons_eq_if_modifyHead, if_neg hc, h]
        rfl
      rw [dropEndWhile_squeezed hparts, parts, hparts]
      exact (intercalate_cons _ _).symm

/-! ## The renaming -/

theorem isSceneWord_eq_false {s c e n a : Char} (h : '_' ∈ [s, c, e, n, a]) :
    isSceneWord s c e n a = false := by
  rw [Bool.eq_false_iff]
  intro hword
  simp only [isSceneWord, Bool.and_eq_true, decide_eq_true_eq] at hword
  obtain ⟨⟨⟨⟨hs, hc⟩, he⟩, hn⟩, ha⟩ := hword
  simp only [List.mem_cons, List.not_mem_nil, or_false] at h
  rcases h with rfl | rfl | rfl | rfl | rfl
  · exact absurd hs (by decide)
  · exact absurd hc (by decide)
  · exact absurd he (by decide)
  · exact absurd hn (by decide)
  · exact absurd ha (by decide)

theorem renamed_of_not_mem {t : Text} (h : '_' ∉ t) (token : Text) : renamed token t = t := by
  unfold renamed
  split
  · exact absurd (by simp) h
  · rfl

/-- What stands before the first underscore gives way if it is one of the words. -/
theorem renamed_append {word : Text} (h : '_' ∉ word) (token rest : Text) :
    renamed token (word ++ '_' :: rest) =
      (if isWord word then token else word) ++ '_' :: rest := by
  by_cases hlength : word.length = 5
  · match word, hlength with
    | [s, c, e, n, a], _ =>
      rw [isWord_eq_isSceneWord]
      show renamed token (s :: c :: e :: n :: a :: '_' :: rest) = _
      rw [renamed]
      split
      · rfl
      · rfl
  · have hword : isWord word = false := by
      rw [Bool.eq_false_iff]
      exact fun hword => hlength (length_of_isWord hword)
    rw [hword]
    unfold renamed
    split
    · rename_i s c e n a after heq
      have hmem : '_' ∈ [s, c, e, n, a] := by
        have heq : word ++ '_' :: rest = [s, c, e, n, a] ++ '_' :: after := heq
        rcases List.append_eq_append_iff.mp heq with ⟨more, hfive, hmore⟩ | ⟨more, hword, hmore⟩
        · cases more with
          | nil =>
              rw [List.append_nil] at hfive
              exact absurd (congrArg List.length hfive).symm hlength
          | cons x more =>
              rw [hfive, (List.cons.inj hmore).1]
              exact List.mem_append_right _ List.mem_cons_self
        · cases more with
          | nil =>
              rw [List.append_nil] at hword
              exact absurd (congrArg List.length hword) hlength
          | cons x more =>
              rw [hword, (List.cons.inj hmore).1] at h
              exact absurd (List.mem_append_right _ List.mem_cons_self) h
      rw [isSceneWord_eq_false hmem]
      exact heq.symm
    · rfl

/-- Whether the first part gives way: it is one of the words, and not all there is. -/
def opensWithWord : List Text → Bool
  | first :: _ :: _ => isWord first
  | _ => false

/-- The parts with the token for the first one, if it gives way. -/
def renamedParts (token : Text) (parts : List Text) : List Text :=
  if opensWithWord parts then token :: parts.tail else parts

theorem renamed_intercalate {parts : List Text} (h : ∀ part ∈ parts, '_' ∉ part) (token : Text) :
    renamed token (List.intercalate ['_'] parts) =
      List.intercalate ['_'] (renamedParts token parts) := by
  match parts with
  | [] => rfl
  | [part] =>
      rw [List.intercalate_singleton, renamed_of_not_mem (h part List.mem_cons_self)]
      exact List.intercalate_singleton.symm
  | first :: second :: more =>
      have hrenamed : renamedParts token (first :: second :: more) =
          (if isWord first then token else first) :: second :: more := by
        rw [renamedParts, opensWithWord]
        split
        · rfl
        · rfl
      rw [hrenamed, intercalate_cons, intercalate_cons]
      exact renamed_append (h first List.mem_cons_self) token _

/-! ## A name as a heading -/

theorem parts_intercalate {ps : List Text}
    (h : ∀ part ∈ ps, part ≠ [] ∧ ∀ c ∈ part, isSeparator c = false) :
    parts (List.intercalate ['_'] ps) = ps := by
  induction ps with
  | nil => rfl
  | cons part more ih =>
      obtain ⟨⟨hne, hpart⟩, hmore⟩ := List.forall_mem_cons.mp h
      have hkept : (part != []) = true := bne_iff_ne.mpr hne
      cases more with
      | nil =>
          rw [List.intercalate_singleton, parts, List.splitOnP_eq_singleton hpart]
          exact List.filter_cons_of_pos (p := (· != [])) hkept
      | cons next more =>
          rw [List.intercalate_cons_cons, List.append_assoc, List.singleton_append, parts,
            List.splitOnP_append_cons_of_forall_mem hpart '_' rfl]
          exact (List.filter_cons_of_pos (p := (· != [])) hkept).trans
            (congrArg (part :: ·) (ih hmore))

theorem renamedParts_renamedParts (token : Text) (ps : List Text) :
    renamedParts token (renamedParts token ps) = renamedParts token ps := by
  by_cases hword : opensWithWord ps = true
  · have hrenamed : renamedParts token ps = token :: ps.tail := if_pos hword
    rw [hrenamed, renamedParts]
    split
    · rfl
    · rfl
  · have hsame : renamedParts token ps = ps := if_neg hword
    rw [hsame, hsame]

theorem name_eq_intercalate_renamedParts (token heading : Text) :
    name token heading = List.intercalate ['_'] (renamedParts token (parts heading)) := by
  rw [name, plainName_eq_intercalate,
    renamed_intercalate fun part hpart => not_mem_of_mem_parts rfl hpart]

/-- If the token is a part like the others, the parts of a name are those that it is made of. -/
theorem parts_name {token : Text} (hne : token ≠ []) (htoken : ∀ c ∈ token, isSeparator c = false)
    (heading : Text) : parts (name token heading) = renamedParts token (parts heading) := by
  rw [name_eq_intercalate_renamedParts]
  refine parts_intercalate fun part hpart => ?_
  have hcases : part = token ∨ part ∈ parts heading := by
    unfold renamedParts at hpart
    split at hpart
    · exact (List.mem_cons.mp hpart).imp_right List.mem_of_mem_tail
    · exact Or.inr hpart
  rcases hcases with rfl | hpart
  · exact ⟨hne, htoken⟩
  · refine ⟨ne_nil_of_mem_parts hpart, fun c hc => Bool.eq_false_iff.mpr fun hsep => ?_⟩
    exact not_mem_of_mem_parts hsep hpart hc

theorem name_name {token : Text} (hne : token ≠ []) (htoken : ∀ c ∈ token, isSeparator c = false)
    (heading : Text) : name token (name token heading) = name token heading := by
  rw [name_eq_intercalate_renamedParts, parts_name hne htoken, renamedParts_renamedParts,
    ← name_eq_intercalate_renamedParts]

/-! ## What is in a name -/

theorem head?_squeezed (t : Text) : (squeezed t).head? = t.head? := by
  induction t with
  | nil => rfl
  | cons c rest ih =>
      rw [squeezed]
      split
      · rename_i h
        rw [ih, h.2, h.1]
        rfl
      · rfl

theorem not_infix_squeezed (t : Text) : ¬ ['_', '_'] <:+: squeezed t := by
  induction t with
  | nil => exact fun h => absurd (List.infix_nil.mp h) (by decide)
  | cons c rest ih =>
      rw [squeezed]
      split
      · exact ih
      · rename_i hrun
        intro h
        rcases List.infix_cons_iff.mp h with hfront | hrest
        · obtain ⟨hc, hnext⟩ := List.cons_prefix_cons.mp hfront
          obtain ⟨more, hmore⟩ := hnext
          refine hrun ⟨hc.symm, ?_⟩
          rw [← head?_squeezed, ← hmore]
          rfl
        · exact ih hrest

theorem isInfix_stripped (t : Text) : stripped t <:+: t :=
  (Text.dropEndWhile_prefix _ _).isInfix.trans (List.dropWhile_suffix _).isInfix

theorem not_infix_plainName (heading : Text) : ¬ ['_', '_'] <:+: plainName heading :=
  fun h => not_infix_squeezed _ (h.trans (isInfix_stripped _))

theorem head?_plainName (heading : Text) : (plainName heading).head? ≠ some '_' := by
  intro h
  refine Text.head?_dropEndWhile_dropWhile (· == '_') (squeezed (underscored heading)) ?_
  exact congrArg (Option.map (· == '_')) h

theorem getLast?_plainName (heading : Text) : (plainName heading).getLast? ≠ some '_' := by
  intro h
  refine Text.getLast?_dropEndWhile (· == '_')
    ((squeezed (underscored heading)).dropWhile (· == '_')) ?_
  exact congrArg (Option.map (· == '_')) h

theorem renamed_eq_nil_iff {token t : Text} : renamed token t = [] ↔ t = [] := by
  unfold renamed
  split
  · split
    · simp
    · rfl
  · rfl

theorem plainName_eq_nil_iff {heading : Text} : plainName heading = [] ↔ parts heading = [] := by
  rw [plainName_eq_intercalate]
  cases hparts : parts heading with
  | nil => exact ⟨fun _ => rfl, fun _ => rfl⟩
  | cons part more =>
      have hpart : part ≠ [] := ne_nil_of_mem_parts (hparts ▸ List.mem_cons_self)
      rw [intercalate_cons, List.append_eq_nil_iff]
      exact ⟨fun h => absurd h.1 hpart, fun h => absurd h (List.cons_ne_nil _ _)⟩

/-- **A name is made of the parts of its heading.**  They stand in their order with an
underscore between them, except that the token, as it is, comes for the first one if that
is `scene` or `scena` in some case and there is another part; the others stay.  So there is
a name if there is a part, be the token empty.  Unless the token has come in, the name has
no separator but single underscores inside. -/
theorem name_eq_intercalate (token heading : Text) :
    name token heading = List.intercalate ['_'] (renamedParts token (parts heading)) ∧
      (renamedParts token (parts heading)).tail = (parts heading).tail ∧
      (∀ word, isWord word = true ↔ ∃ s ∈ ['s', 'S', 'ſ'], ∃ c ∈ ['c', 'C'], ∃ e ∈ ['e', 'E'],
        ∃ n ∈ ['n', 'N'], ∃ a ∈ ['a', 'A', 'e', 'E'], word = [s, c, e, n, a]) ∧
      (name token heading = [] ↔ parts heading = []) ∧
      (opensWithWord (parts heading) = false →
        (∀ c ∈ name token heading, isSeparator c = true → c = '_') ∧
        ¬ ['_', '_'] <:+: name token heading ∧
        (name token heading).head? ≠ some '_' ∧ (name token heading).getLast? ≠ some '_') := by
  have hclear : ∀ part ∈ parts heading, '_' ∉ part := fun part h => not_mem_of_mem_parts rfl h
  have hname : name token heading =
      List.intercalate ['_'] (renamedParts token (parts heading)) := by
    rw [name, plainName_eq_intercalate, renamed_intercalate hclear]
  refine ⟨hname, ?_, fun word => isWord_iff_exists, ?_, ?_⟩
  · rw [renamedParts]
    split
    · rfl
    · rfl
  · rw [name, renamed_eq_nil_iff, plainName_eq_nil_iff]
  · intro hstays
    have hplain : name token heading = plainName heading := by
      rw [hname, renamedParts, hstays, plainName_eq_intercalate]
      rfl
    rw [hplain]
    refine ⟨?_, not_infix_plainName heading, head?_plainName heading, getLast?_plainName heading⟩
    intro c hmem hc
    by_contra hne
    exact not_mem_plainName hc hne heading hmem

/-- Brackets, blanks and hyphens in a row, and one of the words where it does not count. -/
theorem name_eq_intercalate_act_one :
    let heading := " [Act 1] --- {Scene}_".toList
    opensWithWord (parts heading) = false ∧
      name [] heading = "Act_1_Scene".toList ∧ ¬ ['_', '_'] <:+: name [] heading := by
  intro heading
  have hstays : opensWithWord (parts heading) = false := by decide
  obtain ⟨hname, -, -, -, hplain⟩ := name_eq_intercalate [] heading
  obtain ⟨-, hsingle, -⟩ := hplain hstays
  exact ⟨hstays, hname.trans rfl, hsingle⟩

/-- The long s, and a token with a separator. -/
example : name "A-".toList "ſCENA 3: the end".toList = "A-_3_the_end".toList := by decide

end StoryScript.Scene
