/-
# `StoryScript.Text.CharSet` — sets of characters put together

A set of characters is built from listed ones by the operations of sets, and by
adding the case variants of what it holds.  It is data, so that it can be told
what a set is made of as well as what is in it.
-/
import StoryScript.Text.CodeSet
import StoryScript.Text.Folding

namespace StoryScript.Text

/-- A set of characters. -/
inductive CharSet where
  /-- The characters of a list. -/
  | codes (s : CodeSet)
  | compl (a : CharSet)
  | union (a b : CharSet)
  | inter (a b : CharSet)
  /-- All characters that differ from one of the set in case alone. -/
  | folded (a : CharSet)
  /-- The characters of the set, and all letters of ASCII that differ from one of them in case
  alone. -/
  | foldedAscii (a : CharSet)

namespace CharSet

/-- Membership of a character. -/
def contains : CharSet → Char → Bool
  | .codes s, c => s.contains c
  | .compl a, c => !(a.contains c)
  | .union a b, c => a.contains c || b.contains c
  | .inter a b, c => a.contains c && b.contains c
  | .folded a, c => (caseVariants c).any fun d => a.contains d
  | .foldedAscii a, c => a.contains c || a.contains c.toLower || a.contains c.toUpper

/-- The set without characters. -/
def empty : CharSet := .codes ⟨[]⟩

/-- The set of all characters. -/
def full : CharSet := .compl .empty

/-- The characters from `first` to `last`. -/
def range (first last : Char) : CharSet := .codes (.range first last)

/-- The set of one character. -/
def single (c : Char) : CharSet := .range c c

/-- The characters of `a` that are not in `b`. -/
def diff (a b : CharSet) : CharSet := .inter a (.compl b)

/-- The characters that are in one of the sets and not in the other. -/
def symmDiff (a b : CharSet) : CharSet := .union (.diff a b) (.diff b a)

/-- The characters of all sets of a list. -/
def unions (sets : List CharSet) : CharSet := sets.foldr .union .empty

/-- The complement, if it is asked for. -/
def negatedIf (negated : Bool) (a : CharSet) : CharSet := if negated then .compl a else a

/-- The number of stretches that the lists in a set amount to. -/
def stretches : CharSet → Nat
  | .codes s => (s.changes.length + 1) / 2
  | .compl a => a.stretches
  | .union a b => a.stretches + b.stretches
  | .inter a b => a.stretches + b.stretches
  | .folded a => a.stretches
  | .foldedAscii a => a.stretches

end CharSet

end StoryScript.Text
