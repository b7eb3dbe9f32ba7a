/-
# `StoryScript.Text.Quoted` — a text in quotes, with every character visible

A text is shown between double quotes so that a reader can tell what is in
it: double quotes and backslashes carry a backslash, the common controls have a
letter each, and what is invisible or would melt into its neighbour is spelled
by its code point in hexadecimal.  All other characters, accented letters and
emoji included, stand for themselves.

A path is shown in the same way, except that its single quotes carry a backslash
as well.
-/
import StoryScript.Text.Blank
import StoryScript.Text.Property

namespace StoryScript.Text

/-- The code point of a character in lower-case hexadecimal digits. -/
def hexDigits (c : Char) : Text := Nat.toDigits 16 c.toNat

/-- A character as it is shown between quotes; those that are `marked` carry a
backslash. -/
def quotedChar (marked : List Char) (c : Char) : Text :=
  if c = '\x00' then ['\\', '0']
  else if c = '\t' then ['\\', 't']
  else if c = '\r' then ['\\', 'r']
  else if c = '\n' then ['\\', 'n']
  else if c ∈ marked then ['\\', c]
  else if Property.invisible.contains c then
    ['\\', 'u', '\x7b'] ++ hexDigits c ++ ['\x7d']
  else [c]

/-- The text between double quotes. -/
def quoted (t : Text) : Text := '"' :: t.flatMap (quotedChar ['"', '\\']) ++ ['"']

/-- The text of a path between double quotes. -/
def quotedPath (t : Text) : Text := '"' :: t.flatMap (quotedChar ['"', '\\', '\'']) ++ ['"']

end StoryScript.Text
