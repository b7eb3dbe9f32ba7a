/-
# `StoryScript.Event` — the log of a compilation

A compilation leaves a trace of what it met and did.  The entries are data, so
that the trace can be compared with the output it accompanies; how an entry
reads, and how severe it is, are functions on it.
-/
import StoryScript.Path

namespace StoryScript

/-- How much an entry matters. -/
inductive Severity where
  | warn
  | info
  | debug
deriving DecidableEq, Repr

/-- One entry of the log. -/
inductive Event where
  | entryFound
  | sceneHeading (heading : Text)
  | sceneSkipped (heading : Text)
  | sceneNamed (name : Text)
  | newSpeaker (speaker : Text)
  | spoken (scene speaker : Text)
  | paused (scene : Text)
  | commented (scene : Text)
  | scriptEnds (heading : Text)
  | writing (path : Path)
deriving DecidableEq, Repr

namespace Event

/-- A skipped scene is a warning; what happens per statement is for debugging. -/
def severity : Event → Severity
  | .entryFound | .sceneHeading _ | .sceneNamed _ | .writing _ => .info
  | .sceneSkipped _ => .warn
  | .newSpeaker _ | .spoken _ _ | .paused _ | .commented _ | .scriptEnds _ => .debug

/-- The wording of an entry. -/
def message : Event → Text
  | .entryFound => "Found script entry point".toList
  | .sceneHeading heading => "[SCENE] ".toList ++ heading
  | .sceneSkipped heading =>
    "Skipping scene '".toList ++ heading ++ "': heading has no usable characters".toList
  | .sceneNamed name => "   ---> ".toList ++ name
  | .newSpeaker speaker => "New character: ".toList ++ speaker
  | .spoken scene speaker => "[".toList ++ scene ++ "] dialogue from ".toList ++ speaker
  | .paused scene => "[".toList ++ scene ++ "] pause".toList
  | .commented scene => "[".toList ++ scene ++ "] comment".toList
  | .scriptEnds heading => "Script ends at heading '".toList ++ heading ++ "'".toList
  | .writing path => "Writing ".toList ++ path.text

end Event

end StoryScript
