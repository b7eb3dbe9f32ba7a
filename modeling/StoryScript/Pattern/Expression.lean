/-
# `StoryScript.Pattern.Expression` — what a pattern matches

An expression is matched against a text from place to place: a place lies before
the first character, between two characters, or behind the last.  An expression
leads from a set of places to the set of all places where a match that starts at
one of them can end.  Sets of places are lists of marks, one for each place, so an
expression is run through once for each time it is repeated and no match is looked
for twice.

Repeating without end stops when a round adds no place; there are only so many.
-/
import StoryScript.Pattern.Property

namespace StoryScript.Pattern

open Text (CharSet)

/-- What can be asked of a place. -/
inductive Look where
  | textStart
  | textEnd
  | lineStart (crlf : Bool)
  | lineEnd (crlf : Bool)
  | wordBoundary (word : CharSet)
  | noWordBoundary (word : CharSet)
  | wordStart (word : CharSet)
  | wordEnd (word : CharSet)
  | wordStartHalf (word : CharSet)
  | wordEndHalf (word : CharSet)

/-- Whether a place has a word on a side. -/
def borders (word : CharSet) (side : Option Char) : Bool := side.any word.contains

/-- Whether a place is as asked for, by the characters before and behind it. -/
def Look.holds (before behind : Option Char) : Look → Bool
  | .textStart => before.isNone
  | .textEnd => behind.isNone
  | .lineStart crlf =>
    before.isNone || before == some '\n' ||
      crlf && before == some '\r' && behind != some '\n'
  | .lineEnd crlf =>
    behind.isNone || (if crlf then
      behind == some '\r' || behind == some '\n' && before != some '\r'
    else behind == some '\n')
  | .wordBoundary word => borders word before != borders word behind
  | .noWordBoundary word => borders word before == borders word behind
  | .wordStart word => !(borders word before) && borders word behind
  | .wordEnd word => borders word before && !(borders word behind)
  | .wordStartHalf word => !(borders word before)
  | .wordEndHalf word => !(borders word behind)

/-- What is matched. -/
inductive Expression where
  /-- The empty text. -/
  | nothing
  /-- One character of a set. -/
  | set (s : CharSet)
  /-- The empty text at some places only. -/
  | look (l : Look)
  | sequence (a b : Expression)
  | choice (a b : Expression)
  /-- At least `least` times, and at most as often as is said. -/
  | repeated (least : Nat) (most? : Option Nat) (a : Expression)

/-- For each place in a text whether it is marked. -/
abbrev Marks := List Bool

namespace Marks

/-- Every place marked. -/
def everywhere (t : Text) : Marks := List.replicate (t.length + 1) true

/-- The places of either. -/
def either (m n : Marks) : Marks := List.zipWith (· || ·) m n

/-- The places behind a character of a set that a marked place is before. -/
def past (s : CharSet) (t : Text) (m : Marks) : Marks :=
  false :: List.zipWith (fun marked c => marked && s.contains c) m t

/-- For each place the characters before and behind it. -/
def sides (before : Option Char) : Text → List (Option Char × Option Char)
  | [] => [(before, none)]
  | c :: rest => (before, some c) :: sides (some c) rest

/-- The marked places that are as asked for. -/
def only (l : Look) (t : Text) (m : Marks) : Marks :=
  List.zipWith (fun marked side => marked && l.holds side.1 side.2) m (sides none t)

/-- Where `step` leads in a number of times.  Where one time changes nothing, no
further one does. -/
def times (step : Marks → Marks) : Nat → Marks → Marks
  | 0, m => m
  | n + 1, m =>
    let next := step m
    if next == m then m else times step n next

/-- Where `step` leads in any number of times up to some. -/
def upTo (step : Marks → Marks) : Nat → Marks → Marks
  | 0, m => m
  | n + 1, m =>
    let next := either m (step m)
    if next == m then m else upTo step n next

end Marks

namespace Expression

/-- Where matches that start at marked places can end. -/
def along (t : Text) : Expression → Marks → Marks
  | .nothing, m => m
  | .set s, m => m.past s t
  | .look l, m => m.only l t
  | .sequence a b, m => b.along t (a.along t m)
  | .choice a b, m => Marks.either (a.along t m) (b.along t m)
  | .repeated least most? a, m =>
    let more := match most? with
      | some most => most - least
      | none => t.length + 1
    Marks.upTo (a.along t) more (Marks.times (a.along t) least m)

/-- Whether the expression matches somewhere in a text. -/
def occursIn (e : Expression) (t : Text) : Bool :=
  (e.along t (Marks.everywhere t)).any id

/-- The expressions one after the other. -/
def sequences (es : List Expression) : Expression := es.foldr .sequence .nothing

/-- One of the expressions. -/
def choices : List Expression → Expression
  | [] => .set .empty
  | [e] => e
  | e :: es => .choice e (choices es)

/-! ## Size -/

/-- Whether the expression takes up no character. -/
def isWidthless : Expression → Bool
  | .nothing => true
  | .set _ => false
  | .look _ => true
  | .sequence a b => a.isWidthless && b.isWidthless
  | .choice a b => a.isWidthless && b.isWidthless
  | .repeated _ _ a => a.isWidthless

/-- The bytes that one step of a matcher takes up. -/
def stepSize : Nat := 32

/-- The bytes that the steps for a set take up, about. -/
def setSize (s : CharSet) : Nat :=
  match s with
  | .codes ⟨[first, _]⟩ => if first < 0x80 then stepSize else 3 * stepSize
  | s => stepSize + 25 * s.stretches

/-- The bytes that a matcher for the expression takes up, about: what is repeated
is there once for each time. -/
def size : Expression → Nat
  | .nothing => 0
  | .set s => setSize s
  | .look _ => stepSize
  | .sequence a b => a.size + b.size
  | .choice a b => a.size + b.size + stepSize
  | .repeated least most? a =>
    if a.isWidthless then a.size
    else match most? with
      | none => max least 1 * a.size + stepSize
      | some most => least * a.size + (most - least) * (a.size + stepSize)

end Expression

end StoryScript.Pattern
