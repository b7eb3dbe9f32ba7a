/-
# `StoryScript.Scene.Name` — the name of a scene, made from its heading

A scene's name serves as a class name and as a file name, so it is made from
the free text of the heading in four passes: separators become underscores,
a run of underscores becomes one, underscores at the ends go, and a leading
word `scene` or `scena` gives way to the configured token.

The renaming compares without case in the standard's simple folding, under
which the long s counts as an s.  The token is put in as it is: it is not
cleaned of separators, and the name it makes is not looked at again.
-/
import StoryScript.Text.Blank

namespace StoryScript.Scene

/-- Blanks, underscores and a fixed list of punctuation marks separate the
parts of a name. -/
def isSeparator (c : Char) : Bool :=
  Text.isBlank c || c == '_' ||
    c ∈ ['-', ',', '.', ';', ':', '\'', '"', '[', ']', '\x7b', '\x7d', '/', '\\', '!', '@', '#',
      '$', '%', '^', '&', '*']

/-- An underscore for each separator. -/
def underscored (t : Text) : Text :=
  t.map fun c => if isSeparator c then '_' else c

/-- One underscore for each run of them. -/
def squeezed : Text → Text
  | [] => []
  | c :: rest => if c = '_' ∧ rest.head? = some '_' then squeezed rest else c :: squeezed rest

/-- No underscore at either end. -/
def stripped (t : Text) : Text :=
  Text.dropEndWhile (· == '_') (t.dropWhile (· == '_'))

/-- The heading's text as a name, before any renaming. -/
def plainName (heading : Text) : Text := stripped (squeezed (underscored heading))

/-- The five characters of `scene` or `scena`, in any case. -/
def isSceneWord (s c e n a : Char) : Bool :=
  s ∈ ['s', 'S', 'ſ'] && c ∈ ['c', 'C'] && e ∈ ['e', 'E'] && n ∈ ['n', 'N'] &&
    a ∈ ['a', 'A', 'e', 'E']

/-- `token` in place of a leading `scene` or `scena`, if an underscore
follows it. -/
def renamed (token : Text) : Text → Text
  | s :: c :: e :: n :: a :: '_' :: rest =>
    if isSceneWord s c e n a then token ++ '_' :: rest else s :: c :: e :: n :: a :: '_' :: rest
  | name => name

/-- The name of the scene with this heading; empty if the heading has nothing
but separators, and then there is no scene. -/
def name (token heading : Text) : Text := renamed token (plainName heading)

end StoryScript.Scene
