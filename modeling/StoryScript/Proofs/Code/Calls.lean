/-
# `StoryScript.Proofs.Code.Calls` — every call meets its method

A spoken line calls a method that is declared in another file:

    a scene       "        Dialog.X("                       one line for each spoken line
    the helper    "    public static TaleUtil.Action X("    one line for each speaker

The scenes are written as they are closed, from the statements they hold, and the helper
at the end, from the speakers that were noted on the way.  That the two agree is shown
here by reading both off the code: the calls of a scene are its speakers
(`calls_sceneClass`), the methods of the helper are the names that it was made from
(`methods_dialogClass`), and `calls_resolve` puts them together.

A comment that looks like a call is none, as its line starts with the slashes.
-/
import Mathlib.Data.List.Basic
import StoryScript.Proofs.Code.Layout
import StoryScript.Proofs.Compilation.Whole
import StoryScript.Proofs.Scene.Name

namespace StoryScript

/-! ## Names in the code -/

/-- The name between `mark`, at the start of the line, and the next parenthesis. -/
def nameAfter? (mark line : Text) : Option Text := do
  let rest ← line.dropPrefix? mark
  if '(' ∈ rest then some (rest.takeWhile (· != '(')) else none

/-- The method that a line of code calls, if it does. -/
def calledIn? (line : Text) : Option Text := nameAfter? "        Dialog.".toList line

/-- The method that a line of code declares, if it does. -/
def declaredIn? (line : Text) : Option Text :=
  nameAfter? "    public static TaleUtil.Action ".toList line

/-- The methods that the code calls, as often as it does. -/
def calls (code : Text) : List Text := (Text.splitAt '\n' code).filterMap calledIn?

/-- The methods that the code declares. -/
def methods (code : Text) : List Text := (Text.splitAt '\n' code).filterMap declaredIn?

theorem nameAfter?_append {name : Text} (h : '(' ∉ name) (mark rest : Text) :
    nameAfter? mark (mark ++ (name ++ '(' :: rest)) = some name := by
  have hname : ∀ c ∈ name, (c != '(') = true := by
    intro c hc
    exact bne_iff_ne.mpr fun e => h (e ▸ hc)
  have hmem : '(' ∈ name ++ '(' :: rest := List.mem_append_right _ List.mem_cons_self
  unfold nameAfter?
  rw [List.dropPrefix?_append_of_beq _ (beq_self_eq_true _), Option.bind_eq_bind,
    Option.bind_some, if_pos hmem, List.takeWhile_append_of_pos hname]
  exact congrArg some (List.append_nil name)

/-! ## The calls of a scene -/

theorem calledIn?_codeLine {line : Text} {s : Statement} (h : Line.ofText line = .statement s) :
    calledIn? s.codeLine = s.speaker? := by
  rcases Line.ofText_eq_statement h with ⟨d, rfl, hd⟩ | rfl | rfl
  · have hspeaker : '(' ∉ d.speaker := by
      intro hc
      exact absurd (Dialogue.isAlphanum_of_ofLine? hd _ hc) (by decide)
    exact nameAfter?_append hspeaker _ _
  · rfl
  · rfl

theorem filterMap_bodyLines {statements : List Statement}
    (h : ∀ s ∈ statements, ∃ line, Line.ofText line = .statement s) :
    (Code.bodyLines statements).filterMap calledIn? =
      statements.filterMap Statement.speaker? := by
  induction statements with
  | nil => rfl
  | cons s rest ih =>
      obtain ⟨⟨line, hline⟩, hrest⟩ := List.forall_mem_cons.mp h
      rw [Code.bodyLines_cons, List.filterMap_cons_none rfl, List.filterMap_cons,
        List.filterMap_cons, calledIn?_codeLine hline, ih hrest]

/-- The calls in the class of a scene are its speakers, line by line. -/
theorem calls_sceneClass {name : Text} (hname : '\n' ∉ name) {statements : List Statement}
    (h : ∀ s ∈ statements, ∃ line, '\n' ∉ line ∧ Line.ofText line = .statement s) :
    calls (Code.sceneClass name statements) = statements.filterMap Statement.speaker? := by
  have hlines : ∀ s ∈ statements, '\n' ∉ s.codeLine := by
    intro s hs
    obtain ⟨line, hline, hl⟩ := h s hs
    exact Statement.not_mem_codeLine hline hl
  have hbody : ∀ s ∈ statements, ∃ line, Line.ofText line = .statement s := by
    intro s hs
    obtain ⟨line, -, hl⟩ := h s hs
    exact ⟨line, hl⟩
  have hopening : (Code.openingLines name).filterMap calledIn? = [] := rfl
  have hclosing : (Code.closingLines ++ [[]]).filterMap calledIn? = [] := rfl
  rw [calls, Code.splitAt_sceneClass hname hlines, List.filterMap_append, List.filterMap_append,
    hopening, filterMap_bodyLines hbody, hclosing, List.nil_append, List.append_nil]

/-! ## The methods of the helper -/

theorem filterMap_methodLines {speakers : List Text} (h : ∀ speaker ∈ speakers, '(' ∉ speaker)
    {line : Text} (hline : declaredIn? line = none)
    (hlast : declaredIn? (line ++ ['\x7d']) = none) :
    (Code.methodLines line speakers).filterMap declaredIn? = speakers := by
  induction speakers generalizing line with
  | nil =>
      rw [Code.methodLines, List.filterMap_cons_none hlast, List.filterMap_cons_none rfl]
      rfl
  | cons speaker rest ih =>
      obtain ⟨hspeaker, hrest⟩ := List.forall_mem_cons.mp h
      have hmethod : declaredIn? (Code.methodLine speaker) = some speaker :=
        nameAfter?_append hspeaker _ _
      rw [Code.methodLines, List.filterMap_cons_none hline, List.filterMap_cons_some hmethod,
        List.filterMap_cons_none rfl, ih hrest rfl rfl]

theorem methods_dialogClass {speakers : List Text}
    (h : ∀ speaker ∈ speakers, ∀ c ∈ speaker, c.isAlphanum = true) :
    methods (Code.dialogClass speakers) = speakers := by
  have hnewline : ∀ speaker ∈ speakers, '\n' ∉ speaker :=
    fun speaker hs hc => absurd (h speaker hs _ hc) (by decide)
  have hparenthesis : ∀ speaker ∈ speakers, '(' ∉ speaker :=
    fun speaker hs hc => absurd (h speaker hs _ hc) (by decide)
  rw [methods, Code.splitAt_dialogClass hnewline, List.filterMap_append,
    filterMap_methodLines hparenthesis rfl rfl]
  rfl

/-! ## Calls and methods of a script -/

section

variable {cfg : Config} {text : Text} {body : List Line} {sec : Section}

theorem Section.exists_text_of_mem_statements
    (hbody : Script.body? cfg (Script.lines text) = some body)
    (hsec : sec ∈ Script.liveSections cfg body) {s : Statement} (hs : s ∈ sec.statements) :
    ∃ line, '\n' ∉ line ∧ Line.ofText line = .statement s := by
  obtain ⟨line, hline, hstatement⟩ := List.mem_filterMap.mp hs
  have hmem := Script.lines_subset_of_mem_sections (List.mem_of_mem_filter hsec) hline
  obtain ⟨t, ht, rfl⟩ := Script.exists_text_of_mem_body hbody hmem
  exact ⟨t, Script.not_mem_of_mem_texts ht, Line.statement?_eq_some_iff.mp hstatement⟩

theorem Section.exists_spoken_of_mem_speakers
    (hbody : Script.body? cfg (Script.lines text) = some body)
    (hsec : sec ∈ Script.liveSections cfg body) {speaker : Text} (hs : speaker ∈ sec.speakers) :
    ∃ line d, Dialogue.ofLine? line = some d ∧ d.speaker = speaker := by
  obtain ⟨s, hmem, hspeaker⟩ := List.mem_filterMap.mp hs
  obtain ⟨line, -, hl⟩ := exists_text_of_mem_statements hbody hsec hmem
  rcases Line.ofText_eq_statement hl with ⟨d, rfl, hd⟩ | rfl | rfl
  · cases hspeaker
    exact ⟨line, d, hd, rfl⟩
  · cases hspeaker
  · cases hspeaker

theorem Section.isAlphanum_of_mem_speakers
    (hbody : Script.body? cfg (Script.lines text) = some body)
    (hsec : sec ∈ Script.liveSections cfg body) {speaker : Text} (hs : speaker ∈ sec.speakers) :
    ∀ c ∈ speaker, c.isAlphanum = true := by
  obtain ⟨line, d, hd, rfl⟩ := exists_spoken_of_mem_speakers hbody hsec hs
  exact Dialogue.isAlphanum_of_ofLine? hd

theorem Section.ne_nil_of_mem_speakers
    (hbody : Script.body? cfg (Script.lines text) = some body)
    (hsec : sec ∈ Script.liveSections cfg body) {speaker : Text} (hs : speaker ∈ sec.speakers) :
    speaker ≠ [] := by
  obtain ⟨line, d, hd, rfl⟩ := exists_spoken_of_mem_speakers hbody hsec hs
  obtain ⟨-, -, -, -, hne, -⟩ := Dialogue.exists_parts_of_ofLine? hd
  exact hne

theorem Section.calls_code (htoken : '\n' ∉ cfg.sceneToken)
    (hbody : Script.body? cfg (Script.lines text) = some body)
    (hsec : sec ∈ Script.liveSections cfg body) : calls (sec.code cfg) = sec.speakers :=
  calls_sceneClass (Scene.not_mem_name (by decide) (by decide) htoken sec.heading)
    fun _ hs => exists_text_of_mem_statements hbody hsec hs

theorem Script.mem_speakers {speaker : Text} :
    speaker ∈ speakers cfg body ↔ ∃ sec ∈ liveSections cfg body, speaker ∈ sec.speakers := by
  rw [speakers, List.mem_eraseDups, List.mem_flatMap]

end

/-- **Every call meets its method.**  After a compilation the calls of all scenes, with
later repeats dropped, are the reported speakers, and these are the methods of the helper:
one for everyone who is heard in a live section, and none for anybody else. -/
theorem calls_resolve (cfg : Config) (text : Text) (m : Memory) (r : Report)
    (s : Session Memory) (htoken : '\n' ∉ cfg.sceneToken)
    (hok : compileText cfg text m = (.ok r, s)) :
    ∃ scenes helper body,
      s.sink.files = m.files ++ scenes ++
        [(cfg.transitionFile, Code.transitionClass), (cfg.dialogFile, helper)] ∧
      scenes.map (·.1) = r.scenes.map cfg.scenePath ∧
      (scenes.flatMap fun file => calls file.2).eraseDups = r.speakers ∧
      methods helper = r.speakers ∧ (methods helper).Nodup ∧
      Script.body? cfg (Script.lines text) = some body ∧
      ∀ speaker, speaker ∈ methods helper ↔
        ∃ sec ∈ Script.liveSections cfg body, speaker ∈ sec.speakers := by
  obtain ⟨body, hbody, hnames⟩ := exists_body_of_compileText_eq_ok hok
  obtain ⟨s₁, hcompile, hp, h₁⟩ := exists_compileText_eq_finish (m := m) hbody hnames
  obtain ⟨s₂, hfinish, hfiles⟩ := h₁.finish hp
  rw [hcompile, hfinish] at hok
  cases hok
  have halphanum : ∀ speaker ∈ Script.speakers cfg body, ∀ c ∈ speaker, c.isAlphanum = true := by
    intro speaker hs
    obtain ⟨sec, hsec, hmem⟩ := Script.mem_speakers.mp hs
    exact Section.isAlphanum_of_mem_speakers hbody hsec hmem
  have hmethods := methods_dialogClass halphanum
  refine ⟨(Script.liveSections cfg body).map (·.file cfg), _, body, hfiles, ?_, ?_, hmethods, ?_,
    hbody, ?_⟩
  · rw [← Script.map_name_liveSections, List.map_map, List.map_map]
    rfl
  · have hcalls : ((Script.liveSections cfg body).map (·.file cfg)).flatMap
        (fun file => calls file.2) = (Script.liveSections cfg body).flatMap Section.speakers := by
      rw [List.flatMap_map]
      exact List.flatMap_congr fun sec hsec => Section.calls_code htoken hbody hsec
    rw [hcalls]
    rfl
  · rw [hmethods]
    exact nodup_eraseDups _
  · intro speaker
    rw [hmethods]
    exact Script.mem_speakers

/-- Eve is heard in no scene that is written, so she has no method. -/
theorem calls_resolve_without_eve :
    let text := ("Eve: 1\n# Script\nEve: 2\n## Day\nBob: Hi\nDialog.Eve(\n## !\nEve: 3\n" ++
      "## Night\nAnn: Hi\nBob: Hi\n# End\nEve: 4\n").toList
    '\n' ∉ ({} : Config).sceneToken ∧
      ∃ r s, compileText {} text ({} : Memory) = (.ok r, s) ∧
        ∃ scenes helper, s.sink.files = scenes ++
            [(Config.transitionFile {}, Code.transitionClass), (Config.dialogFile {}, helper)] ∧
          scenes.map (·.1) = ["Day", "Night"].map (fun name => Config.scenePath {} name.toList) ∧
          (scenes.flatMap fun file => calls file.2).eraseDups = ["Bob".toList, "Ann".toList] ∧
          methods helper = ["Bob".toList, "Ann".toList] := by
  intro text
  have htoken : '\n' ∉ ({} : Config).sceneToken := by decide
  have hok : compileText {} text ({} : Memory) =
      (.ok ⟨["Day".toList, "Night".toList], ["Bob".toList, "Ann".toList],
        [⟨"Scenes/Day.cs".toList⟩, ⟨"Scenes/Night.cs".toList⟩, ⟨"Transition.cs".toList⟩,
          ⟨"Dialog.cs".toList⟩]⟩, (compileText {} text ({} : Memory)).2) := rfl
  obtain ⟨scenes, helper, body, hfiles, hpaths, hcalls, hmethods, -⟩ :=
    calls_resolve {} text {} _ _ htoken hok
  exact ⟨htoken, _, _, hok, scenes, helper, hfiles, hpaths, hcalls, hmethods⟩

end StoryScript
