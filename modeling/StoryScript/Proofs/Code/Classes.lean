/-
# `StoryScript.Proofs.Code.Classes` — the classes that the files declare

Each file declares one class, on a line of its own that starts with the declaration:

    a scene          "public class X : MonoBehaviour {"
    the helpers      "public static class X {"

The names are read off the code here (`classes`).  Those of the scenes are different from
each other, since a name that comes again is refused, and the two helpers have names of
their own.  Nothing keeps a scene from being called like a helper: the names of the
helpers are on no roster.  So the classes of a compilation are all different exactly if no
scene is called `Transition` or `Dialog` (`classes_nodup_iff`), and a heading is enough for
two classes of one name (`classes_nodup_iff_transition_twice`).
-/
import StoryScript.Proofs.Code.Calls

namespace StoryScript

/-! ## Names in the code -/

/-- The class that a line of code declares, if it does. -/
def classIn? (line : Text) : Option Text :=
  ((line.dropPrefix? "public class ".toList).or
    (line.dropPrefix? "public static class ".toList)).map fun rest => rest.takeWhile (· != ' ')

/-- The classes that the code declares. -/
def classes (code : Text) : List Text := (Text.splitAt '\n' code).filterMap classIn?

theorem classIn?_header {name : Text} (h : ' ' ∉ name) :
    classIn? (Code.header name) = some name := by
  have hname : ∀ c ∈ name, (c != ' ') = true := by
    intro c hc
    exact bne_iff_ne.mpr fun e => h (e ▸ hc)
  unfold classIn? Code.header
  rw [Text.dropPrefix?_append, Option.some_or, Option.map_some,
    List.takeWhile_append_of_pos hname]
  exact congrArg some (List.append_nil name)

/-! ## The class of a scene -/

theorem classIn?_codeLine (s : Statement) : classIn? s.codeLine = none := by
  cases s with
  | say d => rfl
  | pause => rfl
  | comment text => rfl

theorem filterMap_classIn?_bodyLines (statements : List Statement) :
    (Code.bodyLines statements).filterMap classIn? = [] := by
  induction statements with
  | nil => rfl
  | cons s rest ih =>
      rw [Code.bodyLines_cons, List.filterMap_cons_none rfl,
        List.filterMap_cons_none (classIn?_codeLine s), ih]

/-- A scene declares the class of its name and no other. -/
theorem classes_sceneClass {name : Text} (hspace : ' ' ∉ name) (hnewline : '\n' ∉ name)
    {statements : List Statement}
    (h : ∀ s ∈ statements, ∃ line, '\n' ∉ line ∧ Line.ofText line = .statement s) :
    classes (Code.sceneClass name statements) = [name] := by
  have hlines : ∀ s ∈ statements, '\n' ∉ s.codeLine := by
    intro s hs
    obtain ⟨line, hline, hl⟩ := h s hs
    exact Statement.not_mem_codeLine hline hl
  have hopening : (Code.openingLines name).filterMap classIn? = [name] := by
    have hbefore : ["using UnityEngine;".toList, []].filterMap classIn? = [] := rfl
    unfold Code.openingLines
    rw [List.filterMap_append, hbefore, List.filterMap_cons_some (classIn?_header hspace)]
    rfl
  have hclosing : (Code.closingLines ++ [[]]).filterMap classIn? = [] := rfl
  rw [classes, Code.splitAt_sceneClass hnewline hlines, List.filterMap_append,
    List.filterMap_append, hopening, filterMap_classIn?_bodyLines, hclosing]
  rfl

/-! ## The classes of the helpers -/

theorem classes_transitionClass : classes Code.transitionClass = ["Transition".toList] := by
  rw [classes, Code.splitAt_transitionClass]
  rfl

theorem filterMap_classIn?_methodLines (speakers : List Text) {line : Text}
    (h : classIn? (line ++ ['\x7d']) = classIn? line) :
    (Code.methodLines line speakers).filterMap classIn? = (classIn? line).toList := by
  induction speakers generalizing line with
  | nil =>
      rw [Code.methodLines, List.filterMap_cons, h]
      cases classIn? line with
      | none => rfl
      | some _ => rfl
  | cons speaker rest ih =>
      have hrest : (Code.methodLines [] rest).filterMap classIn? = [] := ih rfl
      have hmethod : classIn? (Code.methodLine speaker) = none := rfl
      have hbody : classIn? (Code.methodBody speaker) = none := rfl
      rw [Code.methodLines, List.filterMap_cons, List.filterMap_cons_none hmethod,
        List.filterMap_cons_none hbody, hrest]
      cases classIn? line with
      | none => rfl
      | some _ => rfl

theorem classes_dialogClass {speakers : List Text} (h : ∀ speaker ∈ speakers, '\n' ∉ speaker) :
    classes (Code.dialogClass speakers) = ["Dialog".toList] := by
  rw [classes, Code.splitAt_dialogClass h, List.filterMap_append,
    filterMap_classIn?_methodLines speakers rfl]
  rfl

/-! ## The classes of a script -/

section

variable {cfg : Config} {text : Text} {body : List Line}

theorem Section.classes_code {sec : Section}
    (htoken : ∀ c ∈ cfg.sceneToken, Text.isBlank c = false)
    (hbody : Script.body? cfg (Script.lines text) = some body)
    (hsec : sec ∈ Script.liveSections cfg body) : classes (sec.code cfg) = [sec.name cfg] := by
  have hblank {c : Char} (hc : Text.isBlank c = true) (hne : c ≠ '_') : c ∉ sec.name cfg := by
    refine Scene.not_mem_name ?_ hne ?_ sec.heading
    · unfold Scene.isSeparator
      rw [hc]
      rfl
    · intro hmem
      rw [htoken c hmem] at hc
      cases hc
  exact classes_sceneClass (hblank rfl (by decide)) (hblank rfl (by decide))
    fun _ hs => exists_text_of_mem_statements hbody hsec hs

theorem Script.not_mem_of_mem_speakers (hbody : Script.body? cfg (Script.lines text) = some body)
    {speaker : Text} (h : speaker ∈ speakers cfg body) : '\n' ∉ speaker := by
  obtain ⟨sec, hsec, hmem⟩ := mem_speakers.mp h
  intro hc
  exact absurd (Section.isAlphanum_of_mem_speakers hbody hsec hmem _ hc) (by decide)

end

/-- **When no two files declare the same class.**  The token of the settings, which is put
into names as it is, holds no blank.  After a compilation each file declares one class: the
scenes those of their names, which are all different, and the helpers `Transition` and
`Dialog`.  So the classes are all different exactly if no scene has the name of a helper. -/
theorem classes_nodup_iff (cfg : Config) (text : Text) (m : Memory) (r : Report)
    (s : Session Memory) (htoken : ∀ c ∈ cfg.sceneToken, Text.isBlank c = false)
    (hok : compileText cfg text m = (.ok r, s)) :
    ∃ files body, s.sink.files = m.files ++ files ∧
      Script.body? cfg (Script.lines text) = some body ∧ r.scenes = Script.sceneNames cfg body ∧
      files.map (fun file => classes file.2) =
        (r.scenes ++ ["Transition".toList, "Dialog".toList]).map ([·]) ∧
      r.scenes.Nodup ∧
      ((files.flatMap fun file => classes file.2).Nodup ↔
        "Transition".toList ∉ r.scenes ∧ "Dialog".toList ∉ r.scenes) := by
  obtain ⟨body, hbody, rfl, hfiles⟩ := exists_files_of_compileText_eq_ok hok
  obtain ⟨body', hbody', hnames⟩ := exists_body_of_compileText_eq_ok hok
  rw [hbody] at hbody'
  cases hbody'
  rw [List.append_assoc] at hfiles
  have hscenes : ((Script.liveSections cfg body).map (·.file cfg)).map
      (fun file => classes file.2) = (Script.sceneNames cfg body).map ([·]) := by
    rw [← Script.map_name_liveSections, List.map_map, List.map_map]
    exact List.map_congr_left fun sec hsec => Section.classes_code htoken hbody hsec
  have hdialog : classes (Code.dialogClass (Script.speakers cfg body)) = ["Dialog".toList] :=
    classes_dialogClass fun _ => Script.not_mem_of_mem_speakers hbody
  have hclasses : ((Script.liveSections cfg body).map (·.file cfg) ++
      [(cfg.transitionFile, Code.transitionClass),
        (cfg.dialogFile, Code.dialogClass (Script.speakers cfg body))]).map
        (fun file => classes file.2) =
      (Script.sceneNames cfg body ++ ["Transition".toList, "Dialog".toList]).map ([·]) := by
    rw [List.map_append, hscenes, List.map_append, List.map_cons, List.map_cons, List.map_nil,
      classes_transitionClass, hdialog]
    rfl
  refine ⟨_, body, hfiles, hbody, rfl, hclasses, hnames, ?_⟩
  have hhelpers : ["Transition".toList, "Dialog".toList].Nodup := by decide
  rw [List.flatMap_def, hclasses, ← List.flatMap_def, List.flatMap_singleton', List.nodup_append]
  constructor
  · rintro ⟨-, -, hdisjoint⟩
    exact ⟨fun hmem => hdisjoint _ hmem _ List.mem_cons_self rfl,
      fun hmem => hdisjoint _ hmem _ (List.mem_cons_of_mem _ List.mem_cons_self) rfl⟩
  · rintro ⟨htransition, hdialog⟩
    refine ⟨hnames, hhelpers, fun name hname helper hhelper heq => ?_⟩
    rw [heq] at hname
    rcases List.mem_cons.mp hhelper with rfl | hhelper
    · exact htransition hname
    · rw [List.mem_singleton.mp hhelper] at hname
      exact hdialog hname

/-- A scene that is called nearly like a helper, and a comment that looks like a class. -/
theorem classes_nodup_iff_transitions :
    let text := "# Script\n## Transitions\nBob: Hi\npublic static class Dialog \x7b\n## Scene 1\n".toList
    (∀ c ∈ Config.sceneToken {}, Text.isBlank c = false) ∧
      ∃ r s, compileText {} text ({} : Memory) = (.ok r, s) ∧
        (s.sink.files.flatMap fun file => classes file.2).Nodup := by
  intro text
  have htoken : ∀ c ∈ Config.sceneToken {}, Text.isBlank c = false := by
    intro c hc
    have hnone : (Config.sceneToken {}).any Text.isBlank = false := by decide
    exact Bool.eq_false_iff.mpr (List.any_eq_false.mp hnone c hc)
  have hok : compileText {} text ({} : Memory) =
      (.ok ⟨["Transitions".toList, "Story_1".toList], ["Bob".toList],
        [⟨"Scenes/Transitions.cs".toList⟩, ⟨"Scenes/Story_1.cs".toList⟩,
          ⟨"Transition.cs".toList⟩, ⟨"Dialog.cs".toList⟩]⟩,
        (compileText {} text ({} : Memory)).2) := rfl
  obtain ⟨files, body, hfiles, -, -, -, -, hnodup⟩ := classes_nodup_iff {} text {} _ _ htoken hok
  refine ⟨htoken, _, _, hok, ?_⟩
  rw [hfiles]
  exact hnodup.mpr (by decide)

/-- A heading that makes the name of a helper: the class is declared twice. -/
theorem classes_nodup_iff_transition_twice :
    let text := "# Script\n## Transition\n".toList
    ∃ r s, compileText {} text ({} : Memory) = (.ok r, s) ∧
      (s.sink.files.flatMap fun file => classes file.2) =
        ["Transition".toList, "Transition".toList, "Dialog".toList] ∧
      ¬ (s.sink.files.flatMap fun file => classes file.2).Nodup := by
  intro text
  have hok : compileText {} text ({} : Memory) =
      (.ok ⟨["Transition".toList], [],
        [⟨"Scenes/Transition.cs".toList⟩, ⟨"Transition.cs".toList⟩, ⟨"Dialog.cs".toList⟩]⟩,
        (compileText {} text ({} : Memory)).2) := rfl
  obtain ⟨body, hbody, -, hfiles⟩ := exists_files_of_compileText_eq_ok hok
  have hlive : Script.liveSections {} body = [⟨"Transition".toList, []⟩] := by
    cases hbody
    rfl
  have hspeakers : Script.speakers {} body = [] := by
    rw [Script.speakers, hlive]
    rfl
  have hscene : classes (Section.code {} ⟨"Transition".toList, []⟩) = ["Transition".toList] :=
    @classes_sceneClass _ (by decide) (by decide) [] (List.forall_mem_nil _)
  have hdialog : classes (Code.dialogClass []) = ["Dialog".toList] :=
    classes_dialogClass (List.forall_mem_nil _)
  have hclasses : ((compileText {} text ({} : Memory)).2.sink.files.flatMap
      fun file => classes file.2) =
        ["Transition".toList, "Transition".toList, "Dialog".toList] := by
    simp only [hfiles, hlive, hspeakers, List.nil_append, List.map_cons, List.map_nil,
      List.cons_append, List.flatMap_cons, List.flatMap_nil, Section.file, hscene,
      classes_transitionClass, hdialog, List.append_nil]
  refine ⟨_, _, hok, hclasses, ?_⟩
  rw [hclasses]
  decide

end StoryScript
