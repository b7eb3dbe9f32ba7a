/-
# `StoryScript.Json.Skip` — passing over a value

A value under a key that means nothing is passed over.  It must be well formed,
to any depth, but nothing is kept of it.  What has to be remembered is which
brackets are open, innermost first, and what may come next: a value, a member of
an object, or the rest of the innermost bracket.
-/
import StoryScript.Json.Numeral

namespace StoryScript.Json

/-- An open bracket. -/
inductive Bracket where
  | list
  | object
deriving DecidableEq, Repr

/-- What must come next. -/
inductive Stage where
  | value
  | member
  | next
deriving DecidableEq, Repr

/-- Reads the letters of `null`, `true` or `false` after the first. -/
def readIdent : Text → Text → Except Fault Text
  | [], t => .ok t
  | _ :: _, [] => .error ⟨.endInValue, [], 0⟩
  | x :: letters, c :: rest =>
    if c = x then readIdent letters rest else .error ⟨.expectedIdent, c :: rest, 1⟩

theorem length_readIdent {letters t rest : Text} (h : readIdent letters t = .ok rest) :
    rest.length ≤ t.length := by
  fun_induction readIdent letters t with
  | case1 => cases h; exact Nat.le_refl _
  | case2 => cases h
  | case3 x letters rest' ih =>
    have := ih h
    simp only [List.length_cons]
    omega
  | case4 => cases h

/-- Passes over a value without brackets. -/
def skipScalar (t : Text) : Except Fault Text :=
  match t with
  | [] => .error ⟨.endInValue, [], 0⟩
  | 'n' :: rest => readIdent ['u', 'l', 'l'] rest
  | 't' :: rest => readIdent ['r', 'u', 'e'] rest
  | 'f' :: rest => readIdent ['a', 'l', 's', 'e'] rest
  | '"' :: rest => skipText rest
  | '-' :: rest => skipNumber rest
  | _ => if startsWithDigit t then skipNumber t else .error ⟨.expectedValue, t, 1⟩

theorem length_skipScalar {t rest : Text} (h : skipScalar t = .ok rest) :
    rest.length < t.length := by
  unfold skipScalar at h
  split at h
  · cases h
  · have := length_readIdent h; simp only [List.length_cons]; omega
  · have := length_readIdent h; simp only [List.length_cons]; omega
  · have := length_readIdent h; simp only [List.length_cons]; omega
  · have := length_skipText h; simp only [List.length_cons]; omega
  · have := length_skipNumber h; simp only [List.length_cons]; omega
  · split at h
    · exact length_skipNumber h
    · cases h

/-- The fault of a text that ends within a bracket. -/
def endIn : Bracket → Fault
  | .list => ⟨.endInList, [], 0⟩
  | .object => ⟨.endInObject, [], 0⟩

/-- What comes after a bracket is opened. -/
def firstStage : Bracket → Stage
  | .list => .value
  | .object => .member

/-- The character that closes a bracket. -/
def closer : Bracket → Char
  | .list => ']'
  | .object => '\x7d'

/-- The bracket that a character opens. -/
def opened? : Char → Option Bracket
  | '[' => some .list
  | '\x7b' => some .object
  | _ => none

/-- The fault of a text that does not go on with a comma or the end of a
bracket. -/
def expectedCommaOrEnd (b : Bracket) (t : Text) : Fault :=
  match b with
  | .list => ⟨.expectedCommaOrListEnd, t, 1⟩
  | .object => ⟨.expectedCommaOrObjectEnd, t, 1⟩

/-- Reads the colon after a key. -/
def readColon (t : Text) : Except Fault Text :=
  match skipBlanks t with
  | ':' :: rest => .ok rest
  | [] => .error ⟨.endInObject, [], 0⟩
  | t => .error ⟨.expectedColon, t, 1⟩

theorem length_readColon {t rest : Text} (h : readColon t = .ok rest) :
    rest.length < t.length := by
  have hle := length_skipBlanks_le t
  unfold readColon at h
  split at h
  · rename_i hb
    cases h
    rw [hb] at hle
    simp only [List.length_cons] at hle
    omega
  all_goals cases h

/-- Passes over a key and its colon. -/
def skipKey (t : Text) : Except Fault Text :=
  match skipBlanks t with
  | '"' :: rest =>
    match skipText rest with
    | .error f => .error f
    | .ok rest => readColon rest
  | [] => .error ⟨.endInObject, [], 0⟩
  | t => .error ⟨.keyMustBeString, t, 1⟩

theorem length_skipKey {t rest : Text} (h : skipKey t = .ok rest) : rest.length < t.length := by
  have hle := length_skipBlanks_le t
  unfold skipKey at h
  split at h
  · rename_i hb
    rw [hb] at hle
    simp only [List.length_cons] at hle
    split at h
    · cases h
    · rename_i hskip
      have h₁ := length_skipText hskip
      have h₂ := length_readColon h
      omega
  all_goals cases h

/-- Passes over what is left of a value, from the given stage on.  The stage
`member` differs from `value` by the key in front. -/
def skipFrom (stage : Stage) (brackets : List Bracket) (t : Text) : Except Fault Text :=
  match stage with
  | .next =>
    match brackets with
    | [] => .ok t
    | b :: outer =>
      match h : skipBlanks t with
      | [] => .error (endIn b)
      | c :: rest =>
        have := length_of_skipBlanks h
        if c = ',' then skipFrom (firstStage b) (b :: outer) rest
        else if c = closer b then skipFrom .next outer rest
        else .error (expectedCommaOrEnd b (c :: rest))
  | .member =>
    match h : skipKey t with
    | .error f => .error f
    | .ok rest =>
      have := length_skipKey h
      skipFrom .value brackets rest
  | .value =>
    match h : skipBlanks t with
    | [] => .error ⟨.endInValue, [], 0⟩
    | c :: rest =>
      have := length_of_skipBlanks h
      match opened? c with
      | some b =>
        match h' : skipBlanks rest with
        | [] => .error (endIn b)
        | d :: inner =>
          have := length_of_skipBlanks h'
          if d = closer b then skipFrom .next brackets inner
          else skipFrom (firstStage b) (b :: brackets) rest
      | none =>
        match h' : skipScalar (c :: rest) with
        | .error f => .error f
        | .ok after =>
          have := length_skipScalar h'
          have : (c :: rest).length = rest.length + 1 := rfl
          skipFrom .next brackets after
termination_by t.length
decreasing_by all_goals omega

/-- Passes over a value. -/
def skipValue (t : Text) : Except Fault Text := skipFrom .value [] t

theorem length_skipFrom {stage : Stage} {brackets : List Bracket} {t rest : Text}
    (h : skipFrom stage brackets t = .ok rest) :
    rest.length + (if stage = .next then 0 else 1) ≤ t.length := by
  fun_induction skipFrom stage brackets t with
  | case1 t => cases h; simp only [if_true]; omega
  | case2 => cases h
  | case3 t b outer rest' hb _ ih =>
    have := ih h
    split at this <;> simp only [if_true] <;> omega
  | case4 t b outer rest' hb _ _ ih =>
    have := ih h
    simp only [if_true] at this ⊢
    omega
  | case5 => cases h
  | case6 => cases h
  | case7 brackets t rest' hkey _ ih =>
    have := ih h
    simp only [reduceCtorEq, if_false] at this ⊢
    omega
  | case8 => cases h
  | case9 => cases h
  | case10 brackets t c rest' hb _ b _ inner hb' _ ih =>
    have := ih h
    simp only [if_true, reduceCtorEq, if_false] at this ⊢
    omega
  | case11 brackets t c rest' hb _ b _ d inner hb' _ _ ih =>
    have := ih h
    simp only [reduceCtorEq, if_false]
    split at this <;> omega
  | case12 => cases h
  | case13 brackets t c rest' hb _ _ after hscalar _ _ ih =>
    have := ih h
    simp only [if_true, reduceCtorEq, if_false] at this ⊢
    omega

theorem length_skipValue {t rest : Text} (h : skipValue t = .ok rest) :
    rest.length < t.length := by
  have := length_skipFrom h
  simp only [reduceCtorEq, if_false] at this
  omega

end StoryScript.Json
