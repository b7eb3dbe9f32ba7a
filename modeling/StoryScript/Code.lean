/-
# `StoryScript.Code` — the classes that are written

Every scene becomes one class, whose body is an opening, one piece of code per
statement and a closing; two helper classes go with them.  `Transition` is
fixed.  `Dialog` has one method per speaker, which is what a spoken line calls,
so a scene compiles only beside the helper made from its speakers.

Names and texts are put in as they are.  What keeps an utterance inside its
string literal is done where the line is read.
-/
import StoryScript.Line

namespace StoryScript

/-- The code of one statement.  Each piece brings the blank line before it. -/
def Statement.code : Statement → Text
  | .say d =>
    "\n        Dialog.".toList ++ d.speaker ++ "(\"".toList ++ d.literal ++ "\"".toList ++
      (if d.isReverb then ", reverb: true".toList else []) ++ ");\n".toList
  | .pause => "\n        Tale.Wait();\n".toList
  | .comment text => "\n        // ".toList ++ text ++ "\n".toList

namespace Code

/-- The start of the class of a scene, up to its first statement. -/
def opening (scene : Text) : Text :=
  "using UnityEngine;\n\npublic class ".toList ++ scene ++
    (" : MonoBehaviour \x7b\n    void Awake() \x7b\n" ++
      "        Tale.Wait();\n        Transition.FadeIn();\n").toList

/-- The end of the class of a scene, after its last statement. -/
def closing : Text :=
  ("\n        Tale.Wait();\n        Transition.FadeOut();\n        Tale.Scene();\n" ++
    "    \x7d\n\x7d\n").toList

/-- The whole class of a scene. -/
def sceneClass (scene : Text) (statements : List Statement) : Text :=
  opening scene ++ statements.flatMap Statement.code ++ closing

/-- The class with the two transitions that every scene uses. -/
def transitionClass : Text :=
  ("using UnityEngine;\n\npublic static class Transition \x7b\n" ++
    "    public static TaleUtil.Action FadeIn(float duration = 1f) =>\n" ++
    "        Tale.Transition(\"fade\", Tale.TransitionType.IN, duration);\n\n" ++
    "    public static TaleUtil.Action FadeOut(float duration = 1f) =>\n" ++
    "        Tale.Transition(\"fade\", Tale.TransitionType.OUT, duration);\n\x7d\n").toList

/-- The start of the class that speaks, up to its first method. -/
def dialogOpening : Text :=
  "using System.IO;\nusing UnityEngine;\n\npublic static class Dialog \x7b".toList

/-- The method through which one speaker speaks. -/
def method (speaker : Text) : Text :=
  "\n    public static TaleUtil.Action ".toList ++ speaker ++
    ("(string what, string voice = null, bool additive = false, bool reverb = false) =>\n" ++
      "        Tale.Dialog(\"").toList ++ speaker ++
    "\", what, null, voice != null ? Path.Combine(\"".toList ++ speaker ++
    ("\", voice) : null, voice != null && voice.ToLower().EndsWith(\"loop\"), " ++
      "additive, reverb);\n").toList

/-- The class that speaks, with one method per speaker in the given order. -/
def dialogClass (speakers : List Text) : Text :=
  dialogOpening ++ speakers.flatMap method ++ "\x7d\n".toList

end Code

end StoryScript
