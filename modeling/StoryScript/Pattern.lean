/-
# `StoryScript.Pattern` — patterns that are looked for in a text

A pattern is given as a text and read into the expression that it means.  What is
wrong with it is told with the pattern itself; a pattern that repeats so much that
a matcher for it would grow too large is refused as well.
-/
import StoryScript.Pattern.Meaning
import StoryScript.Pattern.Reading

namespace StoryScript

/-- A pattern that has been understood. -/
structure Pattern where
  expression : Pattern.Expression

namespace Pattern

/-- The bytes that a matcher may take up. -/
def maxSize : Nat := 10485760

/-- What is told of a pattern that is too large. -/
def tooLarge : Text :=
  "Compiled regex exceeds size limit of ".toList ++ Text.digitsOf maxSize ++ " bytes.".toList

/-- The expression that a pattern means, or its first fault. -/
def expressionOf (pattern : Text) : Except Fault Expression := do
  let node ← Node.ofText pattern
  let (e, _) ← node.meaning {}
  return e

/-- Reads a pattern, or tells what is wrong with it. -/
def read (pattern : Text) : Except Text Pattern :=
  match expressionOf pattern with
  | .error f => .error (f.report pattern)
  | .ok e => if e.size > maxSize then .error tooLarge else .ok ⟨e⟩

/-- Whether the pattern matches somewhere in a text. -/
def occursIn (p : Pattern) (t : Text) : Bool := p.expression.occursIn t

end Pattern

end StoryScript
