/-
# `StoryScript.Proofs.Code.Layout` — the written classes, line by line

The code of a scene is put together from texts that carry their newlines with them.
Seen as lines it is a frame around the statements, which take two lines each:

    (six lines, the third with the name)
    (empty)            \
    one statement      /  as often as there are statements
    (six lines)

So the code can be cut into these lines again (`Code.splitAt_sceneClass`), as long as
neither the name nor a statement brings a newline of its own.  The class that speaks has
two lines for each method in the same way (`Code.splitAt_dialogClass`); there the first
method is not preceded by an empty line, and the closing brace of a class without methods
stands on the line of the opening one.
-/
import StoryScript.Code
import StoryScript.Proofs.Line
import StoryScript.Proofs.Text.Lines

namespace StoryScript

/-- How the call of a speaker's method goes on after the literal. -/
def Dialogue.callEnd (reverb : Bool) : Text :=
  (if reverb then ", reverb: true".toList else []) ++ ");".toList

/-- The line of code that a statement becomes. -/
def Statement.codeLine : Statement → Text
  | .say d =>
    "        Dialog.".toList ++ (d.speaker ++ ("(\"".toList ++ (d.literal ++
      '"' :: Dialogue.callEnd d.isReverb)))
  | .pause => "        Tale.Wait();".toList
  | .comment text => "        // ".toList ++ text

theorem Statement.code_eq (s : Statement) : s.code = Text.unlines [[], s.codeLine] := by
  have hnewline : "\n".toList = ['\n'] := rfl
  rw [Text.unlines_pair]
  unfold code codeLine
  cases s with
  | say d =>
      have hcall : "\n        Dialog." = "\n" ++ "        Dialog." := rfl
      have hquote : "\"".toList = ['"'] := rfl
      have hend : ");\n" = ");" ++ "\n" := rfl
      simp only [Dialogue.callEnd, hcall, hquote, hend, hnewline, String.toList_append,
        List.append_assoc, List.cons_append, List.nil_append]
  | pause =>
      have hpause : "\n        Tale.Wait();\n" = "\n" ++ ("        Tale.Wait();" ++ "\n") := rfl
      simp only [hpause, hnewline, String.toList_append, List.cons_append, List.nil_append]
  | comment text =>
      have hcomment : "\n        // " = "\n" ++ "        // " := rfl
      simp only [hcomment, hnewline, String.toList_append, List.append_assoc, List.cons_append,
        List.nil_append]

theorem Statement.not_mem_codeLine {line : Text} (hline : '\n' ∉ line) {s : Statement}
    (h : Line.ofText line = .statement s) : '\n' ∉ s.codeLine := by
  rcases Line.ofText_eq_statement h with ⟨d, rfl, hd⟩ | rfl | rfl
  · have hspeaker : '\n' ∉ d.speaker := by
      intro hc
      exact absurd (Dialogue.isAlphanum_of_ofLine? hd _ hc) (by decide)
    have hliteral : '\n' ∉ d.literal := by
      rw [Dialogue.literal_of_ofLine? hd]
      exact Dialogue.not_mem_escape (by decide) (Dialogue.not_mem_saidIn hline)
    have hend : '\n' ∉ Dialogue.callEnd d.isReverb := by
      cases d.isReverb <;> decide
    unfold codeLine
    simp only [List.mem_append, List.mem_cons]
    simp [hspeaker, hliteral, hend]
  · decide
  · have htrim : '\n' ∉ Text.trim line := fun hc => hline (Text.trim_subset line hc)
    unfold codeLine
    simp [htrim]

namespace Code

/-- The line that names the class of a scene. -/
def header (name : Text) : Text :=
  "public class ".toList ++ (name ++ " : MonoBehaviour \x7b".toList)

/-- The lines of the class of a scene before its first statement. -/
def openingLines (name : Text) : List Text :=
  ["using UnityEngine;".toList, []] ++ header name :: ["    void Awake() \x7b".toList,
    "        Tale.Wait();".toList, "        Transition.FadeIn();".toList]

/-- The lines of the statements. -/
def bodyLines (statements : List Statement) : List Text :=
  statements.flatMap fun s => [[], s.codeLine]

theorem bodyLines_cons (s : Statement) (rest : List Statement) :
    bodyLines (s :: rest) = [] :: s.codeLine :: bodyLines rest := rfl

/-- The lines of the class of a scene after its last statement. -/
def closingLines : List Text :=
  [[], "        Tale.Wait();".toList, "        Transition.FadeOut();".toList,
    "        Tale.Scene();".toList, "    \x7d".toList, "\x7d".toList]

theorem opening_eq (name : Text) : opening name = Text.unlines (openingLines name) := by
  have hnewline : "\n".toList = ['\n'] := rfl
  have hfront : "using UnityEngine;\n\npublic class " =
      "using UnityEngine;" ++ ("\n" ++ ("\n" ++ "public class ")) := rfl
  have hheader : " : MonoBehaviour \x7b\n    void Awake() \x7b\n" =
      " : MonoBehaviour \x7b" ++ ("\n" ++ ("    void Awake() \x7b" ++ "\n")) := rfl
  have hback : "        Tale.Wait();\n        Transition.FadeIn();\n" =
      "        Tale.Wait();" ++ ("\n" ++ ("        Transition.FadeIn();" ++ "\n")) := rfl
  unfold opening openingLines header
  simp only [hfront, hheader, hback, hnewline, String.toList_append, Text.unlines_cons,
    Text.unlines_nil, List.append_assoc, List.cons_append, List.nil_append]

theorem closing_eq : closing = Text.unlines closingLines := by
  have hnewline : "\n".toList = ['\n'] := rfl
  have hfront : "\n        Tale.Wait();\n        Transition.FadeOut();\n        Tale.Scene();\n" =
      "\n" ++ ("        Tale.Wait();" ++ ("\n" ++ ("        Transition.FadeOut();" ++
        ("\n" ++ ("        Tale.Scene();" ++ "\n"))))) := rfl
  have hback : "    \x7d\n\x7d\n" = "    \x7d" ++ ("\n" ++ ("\x7d" ++ "\n")) := rfl
  unfold closing closingLines
  simp only [hfront, hback, hnewline, String.toList_append, Text.unlines_cons,
    Text.unlines_nil, List.append_assoc, List.cons_append, List.nil_append]

theorem flatMap_code_eq (statements : List Statement) :
    statements.flatMap Statement.code = Text.unlines (bodyLines statements) := by
  induction statements with
  | nil => rfl
  | cons s rest ih =>
      rw [List.flatMap_cons, Statement.code_eq, ih, ← Text.unlines_append]
      rfl

theorem not_mem_header {name : Text} (h : '\n' ∉ name) : '\n' ∉ header name := by
  unfold header
  simp [h]

theorem not_mem_of_mem_bodyLines {statements : List Statement}
    (h : ∀ s ∈ statements, '\n' ∉ s.codeLine) {line : Text} (hline : line ∈ bodyLines statements) :
    '\n' ∉ line := by
  obtain ⟨s, hs, hmem⟩ := List.mem_flatMap.mp hline
  rcases List.mem_cons.mp hmem with rfl | hmem
  · exact List.not_mem_nil
  · rw [List.mem_singleton.mp hmem]
    exact h s hs

theorem sceneClass_eq (name : Text) (statements : List Statement) :
    sceneClass name statements =
      Text.unlines (openingLines name ++ (bodyLines statements ++ closingLines)) := by
  rw [sceneClass, opening_eq, flatMap_code_eq, closing_eq, List.append_assoc,
    ← Text.unlines_append, ← Text.unlines_append]

/-- **The lines of the class of a scene.**  The last part is what follows the last
newline, and that is nothing. -/
theorem splitAt_sceneClass {name : Text} (hname : '\n' ∉ name) {statements : List Statement}
    (h : ∀ s ∈ statements, '\n' ∉ s.codeLine) :
    Text.splitAt '\n' (sceneClass name statements) =
      openingLines name ++ (bodyLines statements ++ (closingLines ++ [[]])) := by
  have hopening : ∀ line ∈ openingLines name, '\n' ∉ line := by
    unfold openingLines
    refine List.forall_mem_append.mpr ⟨by decide, List.forall_mem_cons.mpr ⟨?_, by decide⟩⟩
    exact not_mem_header hname
  have hclosing : ∀ line ∈ closingLines, '\n' ∉ line := by decide
  have hlines : ∀ line ∈ openingLines name ++ (bodyLines statements ++ closingLines),
      '\n' ∉ line :=
    List.forall_mem_append.mpr ⟨hopening,
      List.forall_mem_append.mpr ⟨fun _ => not_mem_of_mem_bodyLines h, hclosing⟩⟩
  have hsplit := Text.splitAt_unlines_append hlines []
  rw [List.append_nil] at hsplit
  rw [sceneClass_eq, hsplit, List.append_assoc, List.append_assoc]
  rfl

/-! ## The class with the transitions -/

/-- The lines of the class with the transitions. -/
def transitionLines : List Text :=
  ["using UnityEngine;".toList, [], "public static class Transition \x7b".toList,
    "    public static TaleUtil.Action FadeIn(float duration = 1f) =>".toList,
    "        Tale.Transition(\"fade\", Tale.TransitionType.IN, duration);".toList, [],
    "    public static TaleUtil.Action FadeOut(float duration = 1f) =>".toList,
    "        Tale.Transition(\"fade\", Tale.TransitionType.OUT, duration);".toList, "\x7d".toList]

theorem transitionClass_eq : transitionClass = Text.unlines transitionLines := by
  have hnewline : "\n".toList = ['\n'] := rfl
  have hopening : "using UnityEngine;\n\npublic static class Transition \x7b\n" =
      "using UnityEngine;" ++ ("\n" ++ ("\n" ++ ("public static class Transition \x7b" ++ "\n"))) :=
    rfl
  have hin : "    public static TaleUtil.Action FadeIn(float duration = 1f) =>\n" =
      "    public static TaleUtil.Action FadeIn(float duration = 1f) =>" ++ "\n" := rfl
  have hinBody : "        Tale.Transition(\"fade\", Tale.TransitionType.IN, duration);\n\n" =
      "        Tale.Transition(\"fade\", Tale.TransitionType.IN, duration);" ++ ("\n" ++ "\n") := rfl
  have hout : "    public static TaleUtil.Action FadeOut(float duration = 1f) =>\n" =
      "    public static TaleUtil.Action FadeOut(float duration = 1f) =>" ++ "\n" := rfl
  have houtBody : "        Tale.Transition(\"fade\", Tale.TransitionType.OUT, duration);\n\x7d\n" =
      "        Tale.Transition(\"fade\", Tale.TransitionType.OUT, duration);" ++
        ("\n" ++ ("\x7d" ++ "\n")) := rfl
  unfold transitionClass transitionLines
  simp only [hopening, hin, hinBody, hout, houtBody, hnewline, String.toList_append,
    Text.unlines_cons, Text.unlines_nil, List.append_assoc, List.cons_append, List.nil_append]

/-- **The lines of the class with the transitions.** -/
theorem splitAt_transitionClass :
    Text.splitAt '\n' transitionClass = transitionLines ++ [[]] := by
  have hlines : ∀ line ∈ transitionLines, '\n' ∉ line := by decide +kernel
  have hsplit := Text.splitAt_unlines_append hlines []
  rw [List.append_nil] at hsplit
  rw [transitionClass_eq, hsplit]
  rfl

/-! ## The class that speaks -/

/-- The line that declares the method of a speaker. -/
def methodLine (speaker : Text) : Text :=
  "    public static TaleUtil.Action ".toList ++ (speaker ++
    "(string what, string voice = null, bool additive = false, bool reverb = false) =>".toList)

/-- The line with the body of the method of a speaker. -/
def methodBody (speaker : Text) : Text :=
  "        Tale.Dialog(\"".toList ++ (speaker ++
    ("\", what, null, voice != null ? Path.Combine(\"".toList ++ (speaker ++
      ("\", voice) : null, voice != null && voice.ToLower().EndsWith(\"loop\"), " ++
        "additive, reverb);").toList)))

theorem method_eq (speaker : Text) :
    method speaker = Text.unlines [[], methodLine speaker, methodBody speaker] := by
  have hnewline : "\n".toList = ['\n'] := rfl
  have hdeclared : "\n    public static TaleUtil.Action " =
      "\n" ++ "    public static TaleUtil.Action " := rfl
  have hparameters :
      "(string what, string voice = null, bool additive = false, bool reverb = false) =>\n" =
        "(string what, string voice = null, bool additive = false, bool reverb = false) =>" ++
          "\n" := rfl
  have hend : "additive, reverb);\n" = "additive, reverb);" ++ "\n" := rfl
  unfold method methodLine methodBody
  simp only [hdeclared, hparameters, hend, hnewline, String.toList_append, Text.unlines_cons,
    Text.unlines_nil, List.append_assoc, List.cons_append, List.nil_append]

/-- The lines of the class that speaks, from `line` on, which is the one that the next
method or the closing brace is appended to. -/
def methodLines (line : Text) : List Text → List Text
  | [] => [line ++ ['\x7d'], []]
  | speaker :: rest => line :: methodLine speaker :: methodBody speaker :: methodLines [] rest

theorem not_mem_methodLine {speaker : Text} (h : '\n' ∉ speaker) : '\n' ∉ methodLine speaker := by
  unfold methodLine
  simp [h]

theorem not_mem_methodBody {speaker : Text} (h : '\n' ∉ speaker) : '\n' ∉ methodBody speaker := by
  unfold methodBody
  simp [h]

theorem splitAt_flatMap_method {speakers : List Text} (h : ∀ speaker ∈ speakers, '\n' ∉ speaker)
    {line : Text} (hline : '\n' ∉ line) :
    Text.splitAt '\n' (line ++ (speakers.flatMap method ++ "\x7d\n".toList)) =
      methodLines line speakers := by
  induction speakers generalizing line with
  | nil =>
      have hlast : '\n' ∉ line ++ ['\x7d'] := by simp [hline]
      have hend := Text.splitAt_append_cons hlast []
      rw [List.append_assoc] at hend
      exact hend
  | cons speaker rest ih =>
      obtain ⟨hspeaker, hrest⟩ := List.forall_mem_cons.mp h
      have hlines : ∀ l ∈ [line, methodLine speaker, methodBody speaker], '\n' ∉ l := by
        simp only [List.forall_mem_cons]
        exact ⟨hline, not_mem_methodLine hspeaker, not_mem_methodBody hspeaker, by simp⟩
      have hcons : line ++ ((speaker :: rest).flatMap method ++ "\x7d\n".toList) =
          Text.unlines [line, methodLine speaker, methodBody speaker] ++
            ([] ++ (rest.flatMap method ++ "\x7d\n".toList)) := by
        simp only [List.flatMap_cons, method_eq, Text.unlines_cons, Text.unlines_nil,
          List.append_assoc, List.cons_append, List.nil_append]
      rw [hcons, Text.splitAt_unlines_append hlines, ih hrest List.not_mem_nil]
      rfl

/-- **The lines of the class that speaks.** -/
theorem splitAt_dialogClass {speakers : List Text} (h : ∀ speaker ∈ speakers, '\n' ∉ speaker) :
    Text.splitAt '\n' (dialogClass speakers) =
      ["using System.IO;".toList, "using UnityEngine;".toList, []] ++
        methodLines "public static class Dialog \x7b".toList speakers := by
  have hnewline : "\n".toList = ['\n'] := rfl
  have hfront : "using System.IO;\nusing UnityEngine;\n\npublic static class Dialog \x7b" =
      "using System.IO;" ++ ("\n" ++ ("using UnityEngine;" ++ ("\n" ++ ("\n" ++
        "public static class Dialog \x7b")))) := rfl
  have hopening : dialogOpening = Text.unlines ["using System.IO;".toList,
      "using UnityEngine;".toList, []] ++ "public static class Dialog \x7b".toList := by
    unfold dialogOpening
    simp only [hfront, hnewline, String.toList_append, Text.unlines_cons, Text.unlines_nil,
      List.append_assoc, List.cons_append, List.nil_append]
  rw [dialogClass, hopening, List.append_assoc, List.append_assoc,
    Text.splitAt_unlines_append (by decide), splitAt_flatMap_method h (by decide)]

end Code

end StoryScript
