/-
# `StoryScript.Number.Binary64` — numbers with 53 binary digits

The finite magnitudes of the double-precision format, as a natural number times
a power of two.  All arithmetic is exact and on natural numbers: a quotient is
formed, rounded to the nearest magnitude of the format, and of two nearest the
one with an even mantissa is taken.  Whatever would round to 2^1024 or more has
no magnitude here.

`ofDecimal?` is how a decimal numeral becomes such a number: its digits are
rounded first and scaled by a rounded power of ten afterwards.  So it takes two
or three roundings, and the result can be off by one in the last place.
-/

namespace StoryScript

/-- The magnitude `mantissa · 2 ^ exponent`. -/
structure Binary64 where
  mantissa : Nat
  exponent : Int
deriving DecidableEq, Repr

namespace Binary64

/-- The fraction `num / den` divided by `2 ^ e`. -/
def scaledDown (num den : Nat) : Int → Nat × Nat
  | .ofNat k => (num, den * Nat.pow 2 k)
  | .negSucc k => (num * Nat.pow 2 (k + 1), den)

/-- The natural number nearest to a fraction; of two, the even one. -/
def roundEven (num den : Nat) : Nat :=
  let q := num / den
  let r := num % den
  if 2 * r > den ∨ (2 * r = den ∧ q % 2 = 1) then q + 1 else q

/-- Mantissas are below this number, and from half of it on unless the exponent
is the least. -/
def mantissaBound : Nat := Nat.pow 2 53

/-- The least exponent of the format. -/
def minExponent : Int := -1074

/-- The exponent under which a positive fraction has 53 binary digits before
the point, or the least of the format. -/
def exponentOf (num den : Nat) : Int :=
  let low : Int := num.log2 - den.log2 - 53
  let (n, d) := scaledDown num den low
  max (if n / d < mantissaBound then low else low + 1) minExponent

/-- The magnitude nearest to a fraction, unless it is too large. -/
def ofFraction? (num den : Nat) : Option Binary64 :=
  if num = 0 then some ⟨0, minExponent⟩
  else
    let e := exponentOf num den
    let (n, d) := scaledDown num den e
    let m := roundEven n d
    let (m, e) := if m = mantissaBound then (mantissaBound / 2, e + 1) else (m, e)
    if e > 971 then none else some ⟨m, e⟩

/-- The magnitude nearest to a natural number. -/
def ofNat? (n : Nat) : Option Binary64 := ofFraction? n 1

/-- The magnitude as a fraction. -/
def fraction (x : Binary64) : Nat × Nat :=
  scaledDown x.mantissa 1 (-x.exponent)

/-- The rounded product. -/
def mul? (x y : Binary64) : Option Binary64 :=
  ofFraction? (x.fraction.1 * y.fraction.1) (x.fraction.2 * y.fraction.2)

/-- The rounded quotient. -/
def div? (x y : Binary64) : Option Binary64 :=
  ofFraction? (x.fraction.1 * y.fraction.2) (x.fraction.2 * y.fraction.1)

/-- The largest power of ten of the format. -/
def topPower : Nat := 308

/-- The magnitude times a power of ten, each power rounded before it is used.
A power below the format's range is taken off in parts. -/
def scaleByTen? (x : Binary64) (exponent : Int) : Option Binary64 :=
  if exponent.natAbs ≤ topPower then do
    let power ← ofNat? (Nat.pow 10 exponent.natAbs)
    if 0 ≤ exponent then x.mul? power else x.div? power
  else if x.mantissa = 0 then some x
  else if 0 ≤ exponent then none
  else do
    let y ← x.div? (← ofNat? (Nat.pow 10 topPower))
    y.scaleByTen? (exponent + topPower)
termination_by exponent.natAbs
decreasing_by simp only [topPower] at *; omega

/-- The number read from the decimal digits of `significand`, with the point
moved to the right by `exponent` places. -/
def ofDecimal? (significand : Nat) (exponent : Int) : Option Binary64 := do
  (← ofNat? significand).scaleByTen? exponent

end Binary64

end StoryScript
