/-
# `StoryScript.Json.Quote` — the strings of a JSON text

A string is read after its opening quote and up to its closing one.  Escapes
stand for one character each; a character beyond the first plane is written as
two of them, and half of such a pair stands for nothing.

There are two readers.  `readText` yields the text and refuses what stands for
no text; `skipText` passes over a string whose text is not wanted, and there an
escape only has to look like one.  Each leaves what comes after the string,
which is shorter than what it was given.
-/
import StoryScript.Json.Fault

namespace StoryScript.Json

/-- The blanks of JSON. -/
def isBlank (c : Char) : Bool := c ∈ [' ', '\n', '\t', '\r']

/-- The text from its first character that is not blank. -/
def skipBlanks (t : Text) : Text := t.dropWhile isBlank

theorem length_skipBlanks_le (t : Text) : (skipBlanks t).length ≤ t.length :=
  (List.dropWhile_suffix isBlank).length_le

theorem length_of_skipBlanks {t rest : Text} {c : Char} (h : skipBlanks t = c :: rest) :
    rest.length < t.length := by
  have := length_skipBlanks_le t
  rw [h, List.length_cons] at this
  omega

/-- The value of a hexadecimal digit. -/
def hexValue? (c : Char) : Option Nat :=
  if c.isDigit then some (c.toNat - '0'.toNat)
  else if 'a' ≤ c ∧ c ≤ 'f' then some (c.toNat - 'a'.toNat + 10)
  else if 'A' ≤ c ∧ c ≤ 'F' then some (c.toNat - 'A'.toNat + 10)
  else none

/-- The value of four hexadecimal digits. -/
def hexValues? (a b c d : Char) : Option Nat := do
  return 4096 * (← hexValue? a) + 256 * (← hexValue? b) + 16 * (← hexValue? c) + (← hexValue? d)

/-- Reads four hexadecimal digits.  Four bytes are taken before they are looked
at, so a text too short for that has ended in the string. -/
def readHex (t : Text) : Except Fault (Nat × Text) :=
  match t with
  | a :: b :: c :: d :: rest =>
    match hexValues? a b c d with
    | some n => .ok (n, rest)
    | none => .error ⟨.invalidEscape, t, 4⟩
  | _ => if Text.utf8Length t < 4 then .error ⟨.endInString, [], 0⟩
    else .error ⟨.invalidEscape, t, 4⟩

theorem length_readHex {t rest : Text} {n : Nat} (h : readHex t = .ok (n, rest)) :
    rest.length < t.length := by
  unfold readHex at h
  split at h
  · split at h <;> cases h
    simp only [List.length_cons]
    omega
  · split at h <;> cases h

/-- The leading halves of the pairs. -/
def isLeading (n : Nat) : Bool := 0xD800 ≤ n && n ≤ 0xDBFF

/-- The trailing halves of the pairs. -/
def isTrailing (n : Nat) : Bool := 0xDC00 ≤ n && n ≤ 0xDFFF

/-- The character of a pair of halves. -/
def pairChar (leading trailing : Nat) : Char :=
  Char.ofNat (0x10000 + 0x400 * (leading - 0xD800) + (trailing - 0xDC00))

/-- Reads the second half of a pair, whose escape must follow at once. -/
def readTrailing (leading : Nat) (t : Text) : Except Fault (Char × Text) :=
  match t with
  | '\\' :: 'u' :: rest =>
    match readHex rest with
    | .error f => .error f
    | .ok (n, rest) =>
      if isTrailing n then .ok (pairChar leading n, rest) else .error ⟨.loneSurrogate, rest, 0⟩
  | [] | ['\\'] => .error ⟨.endInString, [], 0⟩
  | '\\' :: rest => .error ⟨.unexpectedEndOfHexEscape, rest, 1⟩
  | _ => .error ⟨.unexpectedEndOfHexEscape, t, 1⟩

/-- Reads the digits of an escape by code point, and those of the second half
if the first calls for one. -/
def readCode (t : Text) : Except Fault (Char × Text) :=
  match readHex t with
  | .error f => .error f
  | .ok (n, rest) =>
    if isTrailing n then .error ⟨.loneSurrogate, rest, 0⟩
    else if isLeading n then readTrailing n rest
    else .ok (Char.ofNat n, rest)

/-- The character that a one-letter escape stands for. -/
def letterEscape? : Char → Option Char
  | '"' => some '"'
  | '\\' => some '\\'
  | '/' => some '/'
  | 'b' => some '\x08'
  | 'f' => some '\x0c'
  | 'n' => some '\n'
  | 'r' => some '\r'
  | 't' => some '\t'
  | _ => none

/-- Reads an escape after its backslash. -/
def readEscape (t : Text) : Except Fault (Char × Text) :=
  match t with
  | [] => .error ⟨.endInString, [], 0⟩
  | 'u' :: rest => readCode rest
  | c :: rest =>
    match letterEscape? c with
    | some x => .ok (x, rest)
    | none => .error ⟨.invalidEscape, t, 1⟩

theorem length_readTrailing {t rest : Text} {n : Nat} {c : Char}
    (h : readTrailing n t = .ok (c, rest)) : rest.length < t.length := by
  unfold readTrailing at h
  split at h
  · split at h
    · cases h
    · rename_i hread
      have := length_readHex hread
      split at h
      · simp only [Except.ok.injEq, Prod.mk.injEq] at h
        obtain ⟨_, rfl⟩ := h
        simp only [List.length_cons]
        omega
      · cases h
  all_goals cases h

theorem length_readEscape {t rest : Text} {c : Char} (h : readEscape t = .ok (c, rest)) :
    rest.length < t.length := by
  unfold readEscape at h
  split at h
  · cases h
  · unfold readCode at h
    split at h
    · cases h
    · rename_i hread
      have := length_readHex hread
      simp only [List.length_cons]
      split at h
      · cases h
      · split at h
        · have := length_readTrailing h
          omega
        · simp only [Except.ok.injEq, Prod.mk.injEq] at h
          obtain ⟨_, rfl⟩ := h
          omega
  · split at h <;> cases h
    simp only [List.length_cons]
    omega

/-- Reads a string to its closing quote; `said` is what it has said so far, read
backwards. -/
def readTextFrom (said : Text) (t : Text) : Except Fault (Text × Text) :=
  match t with
  | [] => .error ⟨.endInString, [], 0⟩
  | '"' :: rest => .ok (said.reverse, rest)
  | '\\' :: rest =>
    match h : readEscape rest with
    | .error f => .error f
    | .ok (c, rest') =>
      have := length_readEscape h
      readTextFrom (c :: said) rest'
  | c :: rest =>
    if c.toNat < 0x20 then .error ⟨.controlCharacter, t, 1⟩
    else readTextFrom (c :: said) rest
termination_by t.length
decreasing_by all_goals (simp only [List.length_cons] at *; omega)

/-- Reads a string after its opening quote: its text, and what comes after its
closing quote. -/
def readText (t : Text) : Except Fault (Text × Text) := readTextFrom [] t

theorem length_readTextFrom {said t s rest : Text} (h : readTextFrom said t = .ok (s, rest)) :
    rest.length < t.length := by
  fun_induction readTextFrom said t with
  | case1 => cases h
  | case2 said rest => cases h; simp only [List.length_cons]; omega
  | case3 => cases h
  | case4 said rest c rest' hread hlt ih =>
    have := ih h
    simp only [List.length_cons]
    omega
  | case5 => cases h
  | case6 said c rest _ _ _ ih =>
    have := ih h
    simp only [List.length_cons]
    omega

theorem length_readText {t s rest : Text} (h : readText t = .ok (s, rest)) :
    rest.length < t.length := length_readTextFrom h

/-- Passes over an escape after its backslash. -/
def skipEscape (t : Text) : Except Fault Text :=
  match t with
  | [] => .error ⟨.endInString, [], 0⟩
  | 'u' :: rest =>
    match readHex rest with
    | .error f => .error f
    | .ok (_, rest) => .ok rest
  | c :: rest =>
    match letterEscape? c with
    | some _ => .ok rest
    | none => .error ⟨.invalidEscape, t, 1⟩

theorem length_skipEscape {t rest : Text} (h : skipEscape t = .ok rest) :
    rest.length < t.length := by
  unfold skipEscape at h
  split at h
  · cases h
  · split at h <;> cases h
    rename_i hread
    have := length_readHex hread
    simp only [List.length_cons]
    omega
  · split at h <;> cases h
    simp only [List.length_cons]
    omega

/-- Passes over a string after its opening quote.  A control character in it is
noticed before it is taken. -/
def skipText (t : Text) : Except Fault Text :=
  match t with
  | [] => .error ⟨.endInString, [], 0⟩
  | '"' :: rest => .ok rest
  | '\\' :: rest =>
    match h : skipEscape rest with
    | .error f => .error f
    | .ok rest' =>
      have := length_skipEscape h
      skipText rest'
  | c :: rest =>
    if c.toNat < 0x20 then .error ⟨.controlCharacter, t, 0⟩
    else skipText rest
termination_by t.length
decreasing_by all_goals (simp only [List.length_cons] at *; omega)

theorem length_skipText {t rest : Text} (h : skipText t = .ok rest) :
    rest.length < t.length := by
  fun_induction skipText t with
  | case1 => cases h
  | case2 rest => cases h; simp only [List.length_cons]; omega
  | case3 => cases h
  | case4 rest rest' hskip hlt ih =>
    have := ih h
    simp only [List.length_cons]
    omega
  | case5 => cases h
  | case6 c rest _ _ _ ih =>
    have := ih h
    simp only [List.length_cons]
    omega

end StoryScript.Json
