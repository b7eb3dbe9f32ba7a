/-
# `StoryScript.Text.CodeSet` — a set of characters, given by where it changes

The character properties of the standard are sets of thousands of code points
that come in a few hundred runs.  Such a set is written down as the increasing
list of the code points at which membership changes: the first of a run, then
the first after it, and so on.  A code point belongs to the set when an odd
number of changes lie at or before it.
-/

namespace StoryScript.Text

/-- The increasing list of the code points where membership changes. -/
structure CodeSet where
  changes : List Nat

/-- A set with the names that it goes by. -/
structure Named where
  names : List String
  set : CodeSet

/-- The set with a name, among those of a table. -/
def named? (table : List Named) (name : String) : Option CodeSet :=
  (table.find? (·.names.contains name)).map (·.set)

/-- Whether the number of changes up to `n` is odd, `inside` telling whether
it is so far. -/
def insideAfter (inside : Bool) (n : Nat) : List Nat → Bool
  | [] => inside
  | c :: rest => if n < c then inside else insideAfter (!inside) n rest

/-- The characters from `first` to `last`. -/
def CodeSet.range (first last : Char) : CodeSet := ⟨[first.toNat, last.toNat + 1]⟩

/-- Membership of a character. -/
def CodeSet.contains (s : CodeSet) (c : Char) : Bool :=
  insideAfter false c.toNat s.changes

end StoryScript.Text
