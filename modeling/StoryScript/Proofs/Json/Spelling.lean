/-
# `StoryScript.Proofs.Json.Spelling` — the ways to spell a string

Between its quotes a string may be spelled in many ways.  Most characters can stand for
themselves, some have a letter, and each one has its code, as one or two escapes with digits
in either case:

    character    spellings

    A            A     \u0041
    "            \"    \u0022
    é            é     \u00e9    \u00E9
    😀           😀    \ud83d\ude00    \uD83D\uDE00

Whatever the spelling, reading gives the characters back (`readText_of_spells`).  A string
that is passed over only has to look like one; there half of a pair will do.  Nothing that
can be read is refused there, and both readers stop behind the same quote
(`skipText_of_readText`).
-/
import StoryScript.Json.Quote

namespace StoryScript.Json

variable {t rest body digits s : Text} {c : Char} {n v : Nat}

/-! ## Digits -/

/-- The digit for a number below sixteen, in either case. -/
def IsHexDigit (v : Nat) (c : Char) : Prop :=
  "0123456789abcdef".toList[v]? = some c ∨ "0123456789ABCDEF".toList[v]? = some c

/-- The four digits of a number. -/
inductive IsCode (n : Nat) : Text → Prop
  | digits {a b c d : Char} : IsHexDigit (n / 4096) a → IsHexDigit (n / 256 % 16) b →
      IsHexDigit (n / 16 % 16) c → IsHexDigit (n % 16) d → IsCode n [a, b, c, d]

theorem hexValue?_of_isHexDigit (h : IsHexDigit v c) : hexValue? c = some v := by
  have htable : ∀ v < 16, "0123456789abcdef".toList[v]?.bind hexValue? = some v ∧
      "0123456789ABCDEF".toList[v]?.bind hexValue? = some v := by
    decide
  rcases h with h | h
  · have hv : v < 16 := (List.getElem?_eq_some_iff.mp h).1
    rw [← (htable v hv).1, h, Option.bind_some]
  · have hv : v < 16 := (List.getElem?_eq_some_iff.mp h).1
    rw [← (htable v hv).2, h, Option.bind_some]

theorem readHex_append (h : IsCode n digits) (rest : Text) :
    readHex (digits ++ rest) = .ok (n, rest) := by
  cases h with
  | @digits a b c d ha hb hc hd =>
      have hsum : 4096 * (n / 4096) + 256 * (n / 256 % 16) + 16 * (n / 16 % 16) + n % 16 = n := by
        omega
      have hvalue : hexValues? a b c d = some n := by
        simp only [hexValues?, hexValue?_of_isHexDigit ha, hexValue?_of_isHexDigit hb,
          hexValue?_of_isHexDigit hc, hexValue?_of_isHexDigit hd, Option.bind_eq_bind,
          Option.bind_some, hsum, Option.pure_def]
      simp only [List.cons_append, List.nil_append, readHex, hvalue]

/-! ## Spellings -/

/-- The letters that stand for a character behind a backslash. -/
def letters : List (Char × Char) :=
  [('"', '"'), ('\\', '\\'), ('/', '/'), ('b', '\x08'), ('f', '\x0c'), ('n', '\n'), ('r', '\r'),
    ('t', '\t')]

/-- A character that can stand for itself in a string. -/
def IsPlain (c : Char) : Prop := 0x20 ≤ c.toNat ∧ c ≠ '"' ∧ c ≠ '\\'

instance (c : Char) : Decidable (IsPlain c) :=
  inferInstanceAs (Decidable (0x20 ≤ c.toNat ∧ c ≠ '"' ∧ c ≠ '\\'))

/-- The spellings of a character. -/
inductive SpellsChar : Text → Char → Prop
  | plain {c : Char} : IsPlain c → SpellsChar [c] c
  | letter {letter c : Char} : (letter, c) ∈ letters → SpellsChar ['\\', letter] c
  | code {digits : Text} {c : Char} : IsCode c.toNat digits → SpellsChar ('\\' :: 'u' :: digits) c
  | pair {leading trailing : Text} {c : Char} : 0x10000 ≤ c.toNat →
      IsCode (0xD800 + (c.toNat - 0x10000) / 0x400) leading →
      IsCode (0xDC00 + (c.toNat - 0x10000) % 0x400) trailing →
      SpellsChar ('\\' :: 'u' :: (leading ++ '\\' :: 'u' :: trailing)) c

/-- The spellings of a text, between the quotes. -/
inductive Spells : Text → Text → Prop
  | nil : Spells [] []
  | cons {w body : Text} {c : Char} {t : Text} :
      SpellsChar w c → Spells body t → Spells (w ++ body) (c :: t)

/-- What can stand between the quotes of a string: an escape needs four digits, of whatever. -/
inductive IsBody : Text → Prop
  | nil : IsBody []
  | plain {c : Char} {body : Text} : IsPlain c → IsBody body → IsBody (c :: body)
  | letter {letter c : Char} {body : Text} :
      (letter, c) ∈ letters → IsBody body → IsBody ('\\' :: letter :: body)
  | code {n : Nat} {digits body : Text} :
      IsCode n digits → IsBody body → IsBody ('\\' :: 'u' :: (digits ++ body))

theorem letterEscape?_of_mem {letter : Char} (h : (letter, c) ∈ letters) :
    letterEscape? letter = some c := by
  simp only [letters, List.mem_cons, Prod.mk.injEq, List.not_mem_nil, or_false] at h
  rcases h with h | h | h | h | h | h | h | h
  all_goals
    obtain ⟨rfl, rfl⟩ := h
    rfl

theorem ne_u_of_mem {letter : Char} (h : (letter, c) ∈ letters) : letter ≠ 'u' := by
  rintro rfl
  cases letterEscape?_of_mem h

theorem Spells.isBody (h : Spells body t) : IsBody body := by
  induction h with
  | nil => exact .nil
  | cons hchar _ ih =>
      cases hchar with
      | plain hplain => exact .plain hplain ih
      | letter hletter => exact .letter hletter ih
      | code hcode => exact .code hcode ih
      | pair _ hleading htrailing =>
          have hbody := IsBody.code hleading (.code htrailing ih)
          simpa only [List.cons_append, List.append_assoc] using hbody

theorem spells_self (h : (t.all fun c => decide (IsPlain c)) = true) : Spells t t := by
  induction t with
  | nil => exact .nil
  | cons c rest ih =>
      rw [List.all_cons, Bool.and_eq_true, decide_eq_true_eq] at h
      exact .cons (.plain h.1) (ih h.2)

theorem exists_isHexDigit (hv : v < 16) : ∃ c, IsHexDigit v c :=
  ⟨_, Or.inl (List.getElem?_eq_getElem (l := "0123456789abcdef".toList) hv)⟩

theorem exists_isCode (hn : n < 0x10000) : ∃ digits, IsCode n digits := by
  obtain ⟨a, ha⟩ := exists_isHexDigit (v := n / 4096) (by omega)
  obtain ⟨b, hb⟩ := exists_isHexDigit (v := n / 256 % 16) (by omega)
  obtain ⟨c, hc⟩ := exists_isHexDigit (v := n / 16 % 16) (by omega)
  obtain ⟨d, hd⟩ := exists_isHexDigit (v := n % 16) (by omega)
  exact ⟨_, .digits ha hb hc hd⟩

/-- Every text can be spelled: what cannot stand for itself has a code. -/
theorem exists_spells (t : Text) : ∃ body, Spells body t := by
  induction t with
  | nil => exact ⟨[], .nil⟩
  | cons c rest ih =>
      obtain ⟨body, hbody⟩ := ih
      by_cases hc : IsPlain c
      · exact ⟨_, .cons (.plain hc) hbody⟩
      · have hlow : c.toNat < 0x10000 := by
          refine Nat.lt_of_not_le fun hhigh => hc ⟨by omega, ?_, ?_⟩
          · rintro rfl
            exact absurd hhigh (by decide)
          · rintro rfl
            exact absurd hhigh (by decide)
        obtain ⟨digits, hdigits⟩ := exists_isCode hlow
        exact ⟨_, .cons (.code hdigits) hbody⟩

/-! ## Reading -/

theorem readTextFrom_plain (h : IsPlain c) (said rest : Text) :
    readTextFrom said (c :: rest) = readTextFrom (c :: said) rest := by
  obtain ⟨hprintable, hquote, hbackslash⟩ := h
  rw [readTextFrom, if_neg (Nat.not_lt.mpr hprintable)]
  · exact hquote
  · exact hbackslash

theorem readTextFrom_escape (h : readEscape t = .ok (c, rest)) (said : Text) :
    readTextFrom said ('\\' :: t) = readTextFrom (c :: said) rest := by
  rw [readTextFrom]
  split
  · rename_i hread
    rw [h] at hread
    cases hread
  · rename_i hread
    rw [h] at hread
    cases hread
    rfl

theorem readEscape_letter {letter : Char} (h : (letter, c) ∈ letters) (rest : Text) :
    readEscape (letter :: rest) = .ok (c, rest) := by
  rw [readEscape]
  · rw [letterEscape?_of_mem h]
  · exact ne_u_of_mem h

theorem toNat_cases (c : Char) :
    c.toNat < 0xD800 ∨ (0xDFFF < c.toNat ∧ c.toNat < 0x110000) := c.valid

theorem readEscape_code (h : IsCode c.toNat digits) (rest : Text) :
    readEscape ('u' :: (digits ++ rest)) = .ok (c, rest) := by
  have htrailing : isTrailing c.toNat = false := by
    have := toNat_cases c
    simp only [isTrailing, Bool.and_eq_false_iff, decide_eq_false_iff_not]
    omega
  have hleading : isLeading c.toNat = false := by
    have := toNat_cases c
    simp only [isLeading, Bool.and_eq_false_iff, decide_eq_false_iff_not]
    omega
  simp only [readEscape, readCode, readHex_append h, htrailing, hleading, Bool.false_eq_true,
    if_false, Char.ofNat_toNat]

theorem readEscape_pair {leading trailing : Text} (hbeyond : 0x10000 ≤ c.toNat)
    (hleading : IsCode (0xD800 + (c.toNat - 0x10000) / 0x400) leading)
    (htrailing : IsCode (0xDC00 + (c.toNat - 0x10000) % 0x400) trailing) (rest : Text) :
    readEscape ('u' :: (leading ++ '\\' :: 'u' :: (trailing ++ rest))) = .ok (c, rest) := by
  have hc := toNat_cases c
  generalize hm : 0xD800 + (c.toNat - 0x10000) / 0x400 = m at hleading
  generalize hn : 0xDC00 + (c.toNat - 0x10000) % 0x400 = n at htrailing
  have hm' : isTrailing m = false ∧ isLeading m = true := by
    simp only [isTrailing, isLeading, Bool.and_eq_false_iff, Bool.and_eq_true,
      decide_eq_false_iff_not, decide_eq_true_eq]
    omega
  have hn' : isTrailing n = true := by
    simp only [isTrailing, Bool.and_eq_true, decide_eq_true_eq]
    omega
  have hchar : pairChar m n = c := by
    have hsum : 0x10000 + 0x400 * (m - 0xD800) + (n - 0xDC00) = c.toNat := by omega
    rw [pairChar, hsum, Char.ofNat_toNat]
  simp only [readEscape, readCode, readHex_append hleading, hm', Bool.false_eq_true, if_false,
    if_true, readTrailing, readHex_append htrailing, hn', hchar]

/-- **Reading undoes every spelling** of a character. -/
theorem readTextFrom_of_spellsChar {w : Text} (h : SpellsChar w c) (said rest : Text) :
    readTextFrom said (w ++ rest) = readTextFrom (c :: said) rest := by
  cases h with
  | plain hplain => exact readTextFrom_plain hplain said rest
  | letter hletter => exact readTextFrom_escape (readEscape_letter hletter rest) said
  | code hcode => exact readTextFrom_escape (readEscape_code hcode rest) said
  | pair hbeyond hleading htrailing =>
      simp only [List.cons_append, List.append_assoc]
      exact readTextFrom_escape (readEscape_pair hbeyond hleading htrailing rest) said

theorem readTextFrom_of_spells (h : Spells body t) (said rest : Text) :
    readTextFrom said (body ++ '"' :: rest) = .ok (said.reverse ++ t, rest) := by
  induction h generalizing said with
  | nil =>
      rw [List.nil_append, readTextFrom, List.append_nil]
  | cons hchar _ ih =>
      rw [List.append_assoc, readTextFrom_of_spellsChar hchar, ih, List.reverse_cons,
        List.append_assoc, List.singleton_append]

/-- Reading a string gives the text that it spells, and what comes after its closing quote. -/
theorem readText_of_spells (h : Spells body t) (rest : Text) :
    readText (body ++ '"' :: rest) = .ok (t, rest) :=
  readTextFrom_of_spells h [] rest

/-! ## Passing over -/

theorem skipText_plain (h : IsPlain c) (rest : Text) : skipText (c :: rest) = skipText rest := by
  obtain ⟨hprintable, hquote, hbackslash⟩ := h
  rw [skipText, if_neg (Nat.not_lt.mpr hprintable)]
  · exact hquote
  · exact hbackslash

theorem skipText_escape (h : skipEscape t = .ok rest) :
    skipText ('\\' :: t) = skipText rest := by
  rw [skipText]
  split
  · rename_i hskip
    rw [h] at hskip
    cases hskip
  · rename_i hskip
    rw [h] at hskip
    cases hskip
    rfl

theorem skipEscape_letter {letter : Char} (h : (letter, c) ∈ letters) (rest : Text) :
    skipEscape (letter :: rest) = .ok rest := by
  rw [skipEscape]
  · rw [letterEscape?_of_mem h]
  · exact ne_u_of_mem h

theorem skipText_of_isBody (h : IsBody body) (rest : Text) :
    skipText (body ++ '"' :: rest) = .ok rest := by
  induction h with
  | nil => rw [List.nil_append, skipText]
  | plain hplain _ ih => rw [List.cons_append, skipText_plain hplain, ih]
  | letter hletter _ ih =>
      rw [List.cons_append, List.cons_append, skipText_escape (skipEscape_letter hletter _), ih]
  | @code n digits body hcode _ ih =>
      have hskip : skipEscape ('u' :: (digits ++ (body ++ '"' :: rest))) =
          .ok (body ++ '"' :: rest) := by
        simp only [skipEscape, readHex_append hcode]
      rw [List.cons_append, List.cons_append, List.append_assoc, skipText_escape hskip, ih]

theorem skipText_of_readTrailing (h : readTrailing n t = .ok (c, rest)) :
    skipText t = skipText rest := by
  unfold readTrailing at h
  split at h
  · rename_i more
    split at h
    · cases h
    · rename_i m after hread
      have hskip : skipEscape ('u' :: more) = .ok after := by simp only [skipEscape, hread]
      rw [skipText_escape hskip]
      split at h
      · simp only [Except.ok.injEq, Prod.mk.injEq] at h
        rw [h.2]
      · cases h
  · cases h
  · cases h
  · cases h
  · cases h

theorem skipText_of_readEscape (h : readEscape t = .ok (c, rest)) :
    skipText ('\\' :: t) = skipText rest := by
  unfold readEscape at h
  split at h
  · cases h
  · rename_i more
    unfold readCode at h
    split at h
    · cases h
    · rename_i n after hread
      have hskip : skipEscape ('u' :: more) = .ok after := by simp only [skipEscape, hread]
      rw [skipText_escape hskip]
      split at h
      · cases h
      · split at h
        · exact skipText_of_readTrailing h
        · simp only [Except.ok.injEq, Prod.mk.injEq] at h
          rw [h.2]
  · rename_i letter more hne
    split at h
    · rename_i x hletter
      cases h
      refine skipText_escape ?_
      rw [skipEscape, hletter]
      exact hne
    · cases h

/-- **What can be read can be passed over**, and that stops at the same place. -/
theorem skipText_of_readTextFrom {said : Text} (h : readTextFrom said t = .ok (s, rest)) :
    skipText t = .ok rest := by
  fun_induction readTextFrom said t with
  | case1 => cases h
  | case2 said rest =>
      cases h
      rw [skipText]
  | case3 => cases h
  | case4 said t c after hread _ ih => rw [skipText_of_readEscape hread, ih h]
  | case5 => cases h
  | case6 said c more hquote hbackslash hprintable ih =>
      rw [skipText_plain ⟨Nat.le_of_not_lt hprintable, hquote, hbackslash⟩, ih h]

theorem skipText_of_readText (h : readText t = .ok (s, rest)) : skipText t = .ok rest :=
  skipText_of_readTextFrom h

end StoryScript.Json
