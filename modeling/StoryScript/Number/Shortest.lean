/-
# `StoryScript.Number.Shortest` — the fewest digits that read back

Of all decimals that lie nearer to a magnitude than to any other magnitude of
the format, `shortest` is one with the fewest digits, and of these the nearest.
It tries 1, 2, … digits, and for each count only the two decimals on either side
of the magnitude: if any decimal with that many digits is near enough, so is one
of these two.
-/
import StoryScript.Number.Binary64

namespace StoryScript.Binary64

/-- The decimals that read back lie between these bounds, counted in quarters
of the last binary place.  Below a power of two the neighbour is half as far. -/
def quarterBounds (x : Binary64) : Nat × Nat :=
  let low := if x.mantissa = mantissaBound / 2 ∧ x.exponent > minExponent then 1 else 2
  (4 * x.mantissa - low, 4 * x.mantissa + 2)

/-- The fraction `num / den` in quarters of the last binary place of `x`. -/
def inQuarters (x : Binary64) (num den : Nat) : Nat × Nat :=
  scaledDown num den (x.exponent - 2)

/-- The fraction `digits · 10 ^ exponent`. -/
def decimalFraction (digits : Nat) : Int → Nat × Nat
  | .ofNat k => (digits * Nat.pow 10 k, 1)
  | .negSucc k => (digits, Nat.pow 10 (k + 1))

/-- Whether `digits · 10 ^ exponent` reads back as `x`.  The bounds themselves
do if the mantissa is even, since a tie goes there. -/
def readsBack (x : Binary64) (exponent : Int) (digits : Nat) : Bool :=
  let (n, d) := decimalFraction digits exponent
  let (n, d) := x.inQuarters n d
  let (low, high) := x.quarterBounds
  if x.mantissa % 2 = 0 then low * d ≤ n && n ≤ high * d
  else low * d < n && n < high * d

/-- The number of decimal digits of a natural number. -/
def countDigits (n : Nat) : Nat := (Nat.toDigits 10 n).length

/-- The exponent of the leading decimal digit of a positive fraction. -/
def leadingExponent (num den : Nat) : Int :=
  if den ≤ num then countDigits (num / den) - 1
  else -(countDigits ((den - 1) / num) : Int)

/-- The decimal with `count` digits that reads back and is nearest to `x`, if
there is one; of two at the same distance the even one. -/
def nearest? (x : Binary64) (count : Nat) : Option (Nat × Int) :=
  let (num, den) := x.fraction
  let exponent := leadingExponent num den - count + 1
  let (unitNum, unitDen) := decimalFraction 1 exponent
  let below := num * unitDen / (den * unitNum)
  let candidates := if 2 * (num * unitDen % (den * unitNum)) > den * unitNum ∨
      (2 * (num * unitDen % (den * unitNum)) = den * unitNum ∧ below % 2 = 1)
    then [below + 1, below] else [below, below + 1]
  (candidates.find? (x.readsBack exponent)).map (·, exponent)

/-- The same decimal without zeros at the end of its digits; `fuel` bounds
their number. -/
def stripZeros : Nat → Nat × Int → Nat × Int
  | 0, d => d
  | fuel + 1, (digits, exponent) =>
    if digits ≠ 0 ∧ digits % 10 = 0 then stripZeros fuel (digits / 10, exponent + 1)
    else (digits, exponent)

/-- The digits and the exponent of the shortest decimal that reads back as a
positive magnitude.  Seventeen digits always do. -/
def shortest (x : Binary64) : Nat × Int :=
  match (List.range 17).findSome? fun i => x.nearest? (i + 1) with
  | some d => stripZeros 17 d
  | none => (0, 0)

end StoryScript.Binary64
