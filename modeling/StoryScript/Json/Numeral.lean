/-
# `StoryScript.Json.Numeral` — the numbers of a JSON text

A number is either passed over or read, and reading serves only to tell what
stood where something else was wanted.  An integer that fits into 64 bits is
kept exactly; with a fraction or an exponent, or too large for that, a number
is kept rounded.  Its leading digits count, as many as fit into 64 bits, and of
the others only their number.

Passing over checks the form alone: any magnitude will do.
-/
import StoryScript.Json.Quote

namespace StoryScript.Json

/-- The largest number of 64 bits. -/
def topNatural : Nat := Nat.pow 2 64 - 1

/-- The largest exponent that is kept. -/
def topExponent : Nat := Nat.pow 2 31 - 1

/-- Whether the text goes on with a digit. -/
def startsWithDigit : Text → Bool
  | c :: _ => c.isDigit
  | [] => false

/-- Takes in digits as long as the number stays within `limit`; the first digit
that would exceed it is left. -/
def absorb (limit n : Nat) : Text → Nat × Text
  | [] => (n, [])
  | c :: rest =>
    if c.isDigit then
      let m := 10 * n + (c.toNat - '0'.toNat)
      if m ≤ limit then absorb limit m rest else (n, c :: rest)
    else (n, c :: rest)

/-- The number `n · 10 ^ exponent`, rounded; `rest` is what comes after it. -/
def rounded (isNegative : Bool) (n : Nat) (exponent : Int) (rest : Text) :
    Except Fault (Number × Text) :=
  match Binary64.ofDecimal? n exponent with
  | some x => .ok (.rounded isNegative x, rest)
  | none => .error ⟨.numberOutOfRange, rest, 0⟩

/-- Reads an exponent after its letter; `places` is how far the digits before it
have moved the point. -/
def readExponent (isNegative : Bool) (n : Nat) (places : Int) (t : Text) :
    Except Fault (Number × Text) :=
  let (down, digits) := match t with
    | '-' :: rest => (true, rest)
    | '+' :: rest => (false, rest)
    | _ => (false, t)
  match digits with
  | [] => .error ⟨.endInValue, [], 0⟩
  | _ =>
    if !startsWithDigit digits then .error ⟨.invalidNumber, digits, 1⟩
    else
      let (exponent, rest) := absorb topExponent 0 digits
      if startsWithDigit rest then
        if n ≠ 0 ∧ !down then .error ⟨.numberOutOfRange, rest, 1⟩
        else .ok (.rounded isNegative ⟨0, Binary64.minExponent⟩, rest.dropWhile Char.isDigit)
      else rounded isNegative n (if down then places - exponent else places + exponent) rest

/-- Reads what may follow the digits of a rounded number: an exponent. -/
def readRounded (isNegative : Bool) (n : Nat) (places : Int) (t : Text) :
    Except Fault (Number × Text) :=
  match t with
  | 'e' :: rest | 'E' :: rest => readExponent isNegative n places rest
  | _ => rounded isNegative n places t

/-- Reads a fraction after its point. -/
def readFraction (isNegative : Bool) (n : Nat) (places : Int) (t : Text) :
    Except Fault (Number × Text) :=
  match t with
  | [] => .error ⟨.endInValue, [], 0⟩
  | _ =>
    if !startsWithDigit t then .error ⟨.invalidNumber, t, 1⟩
    else
      let (m, rest) := absorb topNatural n t
      let taken : Nat := t.length - rest.length
      readRounded isNegative m (places - taken) (rest.dropWhile Char.isDigit)

/-- An integer that fits into 64 bits, as it is kept. -/
def integer (isNegative : Bool) (n : Nat) : Number :=
  if !isNegative then .natural n
  else if n = 0 ∨ n > Nat.pow 2 63 then
    .rounded true ((Binary64.ofNat? n).getD ⟨0, Binary64.minExponent⟩)
  else .negative n

/-- Reads what may follow the digits before the point. -/
def readAfterInteger (isNegative : Bool) (n : Nat) (t : Text) : Except Fault (Number × Text) :=
  match t with
  | '.' :: rest => readFraction isNegative n 0 rest
  | 'e' :: rest | 'E' :: rest => readExponent isNegative n 0 rest
  | _ => .ok (integer isNegative n, t)

/-- Reads a number after its sign.  There is no zero in front of other digits. -/
def readNumber (isNegative : Bool) (t : Text) : Except Fault (Number × Text) :=
  match t with
  | [] => .error ⟨.endInValue, [], 0⟩
  | '0' :: rest =>
    if startsWithDigit rest then .error ⟨.invalidNumber, rest, 1⟩
    else readAfterInteger isNegative 0 rest
  | _ =>
    if !startsWithDigit t then .error ⟨.invalidNumber, t, 1⟩
    else
      let (n, rest) := absorb topNatural 0 t
      if startsWithDigit rest then
        let after := rest.dropWhile Char.isDigit
        let places : Nat := rest.length - after.length
        match after with
        | '.' :: rest => readFraction isNegative n places rest
        | _ => readRounded isNegative n places after
      else readAfterInteger isNegative n rest

/-! ## Passing over -/

/-- Passes over one or more digits. -/
def skipDigits (reach : Nat) (t : Text) : Except Fault Text :=
  if startsWithDigit t then .ok (t.dropWhile Char.isDigit) else .error ⟨.invalidNumber, t, reach⟩

/-- Passes over an exponent, if there is one. -/
def skipExponent (t : Text) : Except Fault Text :=
  match t with
  | 'e' :: '+' :: rest | 'e' :: '-' :: rest | 'E' :: '+' :: rest | 'E' :: '-' :: rest
  | 'e' :: rest | 'E' :: rest => skipDigits 1 rest
  | _ => .ok t

/-- Passes over a fraction and an exponent, if they are there. -/
def skipFraction (t : Text) : Except Fault Text :=
  match t with
  | '.' :: rest =>
    match skipDigits 1 rest with
    | .error f => .error f
    | .ok rest => skipExponent rest
  | _ => skipExponent t

/-- Passes over a number after its sign. -/
def skipNumber (t : Text) : Except Fault Text :=
  match t with
  | '0' :: rest =>
    if startsWithDigit rest then .error ⟨.invalidNumber, rest, 1⟩ else skipFraction rest
  | _ =>
    match skipDigits 1 t with
    | .error f => .error f
    | .ok rest => skipFraction rest

theorem length_dropDigits_lt {t : Text} (h : startsWithDigit t = true) :
    (t.dropWhile Char.isDigit).length < t.length := by
  match t, h with
  | c :: rest, h =>
    simp only [startsWithDigit] at h
    rw [List.dropWhile_cons, if_pos h]
    have := (List.dropWhile_suffix (l := rest) Char.isDigit).length_le
    simp only [List.length_cons]
    omega

theorem length_skipDigits {reach : Nat} {t rest : Text} (h : skipDigits reach t = .ok rest) :
    rest.length < t.length := by
  unfold skipDigits at h
  split at h
  · rename_i hd
    cases h
    exact length_dropDigits_lt hd
  · cases h

theorem length_skipExponent {t rest : Text} (h : skipExponent t = .ok rest) :
    rest.length ≤ t.length := by
  unfold skipExponent at h
  split at h
  case h_7 => cases h; exact Nat.le_refl _
  all_goals
    have := length_skipDigits h
    simp only [List.length_cons]
    omega

theorem length_skipFraction {t rest : Text} (h : skipFraction t = .ok rest) :
    rest.length ≤ t.length := by
  unfold skipFraction at h
  split at h
  · split at h
    · cases h
    · rename_i hskip
      have h₁ := length_skipDigits hskip
      have h₂ := length_skipExponent h
      simp only [List.length_cons]
      omega
  · exact length_skipExponent h

theorem length_skipNumber {t rest : Text} (h : skipNumber t = .ok rest) :
    rest.length < t.length := by
  unfold skipNumber at h
  split at h
  · split at h
    · cases h
    · have := length_skipFraction h
      simp only [List.length_cons]
      omega
  · split at h
    · cases h
    · rename_i hskip
      have h₁ := length_skipDigits hskip
      have h₂ := length_skipFraction h
      omega

end StoryScript.Json
