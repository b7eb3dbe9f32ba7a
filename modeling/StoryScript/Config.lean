/-
# `StoryScript.Config` — the settings of a compilation

Six settings decide where a script starts, what a scene is called and where
the files go.  The defaults are the layout that the Tale runtime expects.
-/
import StoryScript.Path
import StoryScript.Text.LowerCase

namespace StoryScript

/-- The settings. -/
structure Config where
  /-- The heading that starts the script, compared without case. -/
  entryPoint : Text := "Script".toList
  /-- What replaces a leading `scene` or `scena` in the name of a scene. -/
  sceneToken : Text := "Story".toList
  /-- The directory of the scenes' classes. -/
  scenesDir : Path := ⟨"Scenes".toList⟩
  /-- The extension of the scenes' files. -/
  extension : Text := "cs".toList
  /-- Where the transition helper goes. -/
  transitionFile : Path := ⟨"Transition.cs".toList⟩
  /-- Where the dialog helper goes. -/
  dialogFile : Path := ⟨"Dialog.cs".toList⟩
deriving DecidableEq, Repr, Inhabited

namespace Config

/-- Whether a level-1 heading starts the script. -/
def isEntryPoint (cfg : Config) (heading : Text) : Bool :=
  Text.lower heading == Text.lower cfg.entryPoint

/-- The file of the scene called `name`. -/
def scenePath (cfg : Config) (name : Text) : Path :=
  cfg.scenesDir.join ⟨name ++ '.' :: cfg.extension⟩

end Config

end StoryScript
