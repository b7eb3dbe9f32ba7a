/-
# `StoryScript.Text.LowerCase` — texts in lower case

The standard's full mapping to lower case, without a language's own rules.
Three kinds of characters are set apart: the dotted capital I has an image of
two characters, the capital sigma has one of two images, depending on whether
it ends a word, and every other character has one image by the table.

This compares headings without regard to case; it is not case folding, under
which a sharp s would equal a double s.
-/
import StoryScript.Text.Blank
import StoryScript.Text.Property

namespace StoryScript.Text

/-- Whether the nearest character that counts has case; case-ignorable
characters in between do not count. -/
def casedNext (t : Text) : Bool :=
  match t.dropWhile Property.caseIgnorable.contains with
  | c :: _ => Property.cased.contains c
  | [] => false

/-- The image of a capital sigma, with the characters before it read
backwards: the final form at the end of a word of more than one letter. -/
def lowerSigma (before after : Text) : Char :=
  if casedNext before && !casedNext after then 'ς' else 'σ'

/-- The lower case of the second text, which comes after the first one read
backwards. -/
def lowerAfter (before : Text) : Text → Text
  | [] => []
  | c :: rest =>
    let image := if c = 'Σ' then [lowerSigma before rest]
      else if c = 'İ' then ['i', '\u0307']
      else [lowerChar c]
    image ++ lowerAfter (c :: before) rest

/-- The text in lower case. -/
def lower (t : Text) : Text := lowerAfter [] t

end StoryScript.Text
