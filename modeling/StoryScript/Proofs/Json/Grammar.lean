/-
# `StoryScript.Proofs.Json.Grammar` — well-formed values

The grammar of JSON, as far as a reader has to know it who wants to get past a value.  Texts
between brackets are made of items with commas between them; an item of an object is led by
its key.  The numbers are those with a sign, a fraction and an exponent if need be, and there
is no limit to the depth or to the digits.

What is well formed is passed over whole, whatever follows it (`skipValue_of_wellFormed`); a
number alone has to be told from what follows, and blanks, commas and brackets do that
(`Ends`).  The induction is on the grammar.  A value leads from the stage `value` to the stage
`next` with the same brackets open, and what is between two brackets closes the innermost.
-/
import StoryScript.Json.Skip
import StoryScript.Proofs.Json.Spelling

namespace StoryScript.Json

variable {t u v w rest key digits : Text} {c : Char} {b : Bracket} {brackets : List Bracket}

/-! ## Blanks -/

/-- Nothing but blanks. -/
def IsBlanks (t : Text) : Prop := ∀ c ∈ t, isBlank c = true

theorem skipBlanks_append (hu : IsBlanks u) (t : Text) : skipBlanks (u ++ t) = skipBlanks t :=
  List.dropWhile_append_of_pos hu

theorem skipBlanks_cons (hc : isBlank c = false) (t : Text) : skipBlanks (c :: t) = c :: t :=
  List.dropWhile_cons_of_neg (Bool.eq_false_iff.mp hc)

theorem skipBlanks_append_cons (hu : IsBlanks u) (hc : isBlank c = false) (t : Text) :
    skipBlanks (u ++ c :: t) = c :: t := by
  rw [skipBlanks_append hu, skipBlanks_cons hc]

/-- A number cannot go on with what follows. -/
def Ends (t : Text) : Prop := ∀ c ∈ t.head?, isBlank c = true ∨ c ∈ [',', ']', '\x7d']

theorem Ends.blanks_append (hw : IsBlanks w) (hc : c ∈ [',', ']', '\x7d']) (t : Text) :
    Ends (w ++ c :: t) := by
  intro d hd
  cases w with
  | nil =>
      cases hd
      exact Or.inr hc
  | cons _ _ =>
      cases hd
      exact Or.inl (hw _ List.mem_cons_self)

/-! ## Numbers -/

/-- One or more digits. -/
def IsDigits (t : Text) : Prop := t ≠ [] ∧ ∀ c ∈ t, c.isDigit = true

/-- The digits in front of the point; there is no zero in front of others. -/
inductive IsInteger : Text → Prop
  | zero : IsInteger ['0']
  | digits {c : Char} {rest : Text} : c.isDigit = true → c ≠ '0' →
      (∀ d ∈ rest, d.isDigit = true) → IsInteger (c :: rest)

/-- A fraction, if there is one. -/
inductive IsFraction : Text → Prop
  | none : IsFraction []
  | some {digits : Text} : IsDigits digits → IsFraction ('.' :: digits)

/-- An exponent, if there is one. -/
inductive IsExponent : Text → Prop
  | none : IsExponent []
  | some {letter : Char} {sign digits : Text} : letter = 'e' ∨ letter = 'E' →
      sign = [] ∨ sign = ['+'] ∨ sign = ['-'] → IsDigits digits →
      IsExponent (letter :: (sign ++ digits))

/-- A number after its sign. -/
inductive IsMagnitude : Text → Prop
  | parts {integer fraction exponent : Text} : IsInteger integer → IsFraction fraction →
      IsExponent exponent → IsMagnitude (integer ++ (fraction ++ exponent))

theorem startsWithDigit_of_isDigits (h : IsDigits digits) (rest : Text) :
    startsWithDigit (digits ++ rest) = true := by
  obtain ⟨hne, hdigits⟩ := h
  obtain ⟨c, more, rfl⟩ := List.exists_cons_of_ne_nil hne
  exact hdigits c List.mem_cons_self

theorem skipDigits_append (h : IsDigits digits) (hrest : startsWithDigit rest = false)
    (reach : Nat) : skipDigits reach (digits ++ rest) = .ok rest := by
  rw [skipDigits, if_pos (startsWithDigit_of_isDigits h rest),
    List.dropWhile_append_of_pos h.2]
  cases rest with
  | nil => rfl
  | cons c more =>
      have hc : ¬ c.isDigit = true := Bool.eq_false_iff.mp hrest
      rw [List.dropWhile_cons_of_neg hc]

theorem Ends.cons (h : Ends (c :: t)) :
    c.isDigit = false ∧ c ≠ '.' ∧ c ≠ 'e' ∧ c ≠ 'E' := by
  have hall : ∀ c ∈ [' ', '\n', '\t', '\r', ',', ']', '\x7d'],
      (!c.isDigit && c != '.' && c != 'e' && c != 'E') = true := List.all_eq_true.mp rfl
  have hmem : c ∈ [' ', '\n', '\t', '\r', ',', ']', '\x7d'] := by
    rcases h c rfl with hblank | hc
    · exact List.mem_append_left [',', ']', '\x7d'] (of_decide_eq_true hblank)
    · exact List.mem_append_right [' ', '\n', '\t', '\r'] hc
  simpa only [Bool.and_eq_true, Bool.not_eq_true', bne_iff_ne, and_assoc] using hall c hmem

theorem Ends.startsWithDigit (h : Ends t) : startsWithDigit t = false := by
  cases t with
  | nil => rfl
  | cons c rest => exact h.cons.1

theorem startsWithDigit_exponent {exponent : Text} (h : IsExponent exponent) (hrest : Ends rest) :
    startsWithDigit (exponent ++ rest) = false := by
  cases h with
  | none => exact hrest.startsWithDigit
  | some hletter _ _ =>
      rcases hletter with rfl | rfl
      · rfl
      · rfl

theorem skipExponent_of_head? (he : t.head? ≠ some 'e') (hE : t.head? ≠ some 'E') :
    skipExponent t = .ok t := by
  unfold skipExponent
  split
  case h_7 => rfl
  all_goals
    first
    | exact absurd rfl he
    | exact absurd rfl hE

theorem skipExponent_cons {letter : Char} {sign : Text} (hletter : letter = 'e' ∨ letter = 'E')
    (hsign : sign = [] ∨ sign = ['+'] ∨ sign = ['-']) (ht : startsWithDigit t = true) :
    skipExponent (letter :: (sign ++ t)) = skipDigits 1 t := by
  have hplus : ∀ more, t ≠ '+' :: more := by
    rintro more rfl
    cases ht
  have hminus : ∀ more, t ≠ '-' :: more := by
    rintro more rfl
    cases ht
  rcases hletter with rfl | rfl
  all_goals
    rcases hsign with rfl | rfl | rfl
    · rw [List.nil_append, skipExponent]
      · exact hplus
      · exact hminus
    · rfl
    · rfl

theorem skipExponent_append {exponent : Text} (h : IsExponent exponent) (hrest : Ends rest) :
    skipExponent (exponent ++ rest) = .ok rest := by
  cases h with
  | none =>
      rw [List.nil_append]
      cases rest with
      | nil => rfl
      | cons c more =>
          obtain ⟨-, -, he, hE⟩ := hrest.cons
          exact skipExponent_of_head? (fun h => he (Option.some.inj h))
            fun h => hE (Option.some.inj h)
  | some hletter hsign hdigits =>
      rw [List.cons_append, List.append_assoc,
        skipExponent_cons hletter hsign (startsWithDigit_of_isDigits hdigits rest)]
      exact skipDigits_append hdigits hrest.startsWithDigit 1

theorem skipFraction_of_head? (h : t.head? ≠ some '.') : skipFraction t = skipExponent t := by
  unfold skipFraction
  split
  · exact absurd rfl h
  · rfl

theorem skipFraction_append {fraction exponent : Text} (h : IsFraction fraction)
    (h' : IsExponent exponent) (hrest : Ends rest) :
    skipFraction (fraction ++ (exponent ++ rest)) = .ok rest := by
  cases h with
  | none =>
      have hpoint : (exponent ++ rest).head? ≠ some '.' := by
        cases h' with
        | none =>
            cases rest with
            | nil => exact nofun
            | cons c more => exact fun h => hrest.cons.2.1 (Option.some.inj h)
        | some hletter _ _ =>
            rcases hletter with rfl | rfl
            · exact nofun
            · exact nofun
      rw [List.nil_append, skipFraction_of_head? hpoint, skipExponent_append h' hrest]
  | some hdigits =>
      have hskip := skipDigits_append hdigits (startsWithDigit_exponent h' hrest) 1
      rw [List.cons_append, skipFraction]
      simp only [hskip]
      exact skipExponent_append h' hrest

theorem skipNumber_append (h : IsMagnitude t) (hrest : Ends rest) :
    skipNumber (t ++ rest) = .ok rest := by
  obtain @⟨integer, fraction, exponent, hinteger, hfraction, hexponent⟩ := h
  have hafter := skipFraction_append hfraction hexponent hrest
  have hdigit : startsWithDigit (fraction ++ (exponent ++ rest)) = false := by
    cases hfraction with
    | none =>
        rw [List.nil_append]
        exact startsWithDigit_exponent hexponent hrest
    | some _ => rfl
  rw [List.append_assoc, List.append_assoc]
  cases hinteger with
  | zero =>
      rw [List.singleton_append, skipNumber, hdigit]
      exact hafter
  | @digits c more hc hzero hmore =>
      have hdigits : IsDigits (c :: more) :=
        ⟨List.cons_ne_nil c more, List.forall_mem_cons.mpr ⟨hc, hmore⟩⟩
      have hskip := skipDigits_append hdigits hdigit 1
      rw [List.cons_append] at hskip ⊢
      rw [skipNumber]
      · simp only [hskip, hafter]
      · exact fun _ h => hzero (List.cons.inj h).1

/-! ## Values -/

/-- The character that opens a bracket. -/
def opener : Bracket → Char
  | .list => '['
  | .object => '\x7b'

/-- What leads an item of a bracket: of an object, its key with the colon. -/
inductive IsLead : Bracket → Text → Prop
  | list : IsLead .list []
  | object {u body w : Text} : IsBlanks u → IsBody body → IsBlanks w →
      IsLead .object (u ++ '"' :: (body ++ '"' :: (w ++ [':'])))

/-- What a text may be: a value, or the items of a bracket. -/
inductive Form where
  | value
  | items (b : Bracket)

/-- The texts that are of a form. -/
inductive WellFormed : Form → Text → Prop
  | null : WellFormed .value "null".toList
  | true : WellFormed .value "true".toList
  | false : WellFormed .value "false".toList
  | string {body : Text} : IsBody body → WellFormed .value ('"' :: (body ++ ['"']))
  | natural {t : Text} : IsMagnitude t → WellFormed .value t
  | negative {t : Text} : IsMagnitude t → WellFormed .value ('-' :: t)
  | empty {w : Text} (b : Bracket) : IsBlanks w →
      WellFormed .value (opener b :: (w ++ [closer b]))
  | items {t : Text} {b : Bracket} : WellFormed (.items b) t →
      WellFormed .value (opener b :: (t ++ [closer b]))
  | last {lead u v w : Text} {b : Bracket} : IsLead b lead → IsBlanks u → WellFormed .value v →
      IsBlanks w → WellFormed (.items b) (lead ++ (u ++ (v ++ w)))
  | more {lead u v w t : Text} {b : Bracket} : IsLead b lead → IsBlanks u →
      WellFormed .value v → IsBlanks w → WellFormed (.items b) t →
      WellFormed (.items b) (lead ++ (u ++ (v ++ (w ++ ',' :: t))))

/-! ## Scalars -/

theorem readIdent_append (letters rest : Text) :
    readIdent letters (letters ++ rest) = .ok rest := by
  induction letters with
  | nil => rfl
  | cons c more ih => rw [List.cons_append, readIdent, if_pos rfl, ih]

theorem exists_cons_of_isMagnitude (h : IsMagnitude t) :
    ∃ c more, t = c :: more ∧ c.isDigit = true := by
  obtain ⟨hinteger, -, -⟩ := h
  cases hinteger with
  | zero => exact ⟨'0', _, rfl, rfl⟩
  | digits hc _ _ => exact ⟨_, _, rfl, hc⟩

theorem skipScalar_digit (hc : c.isDigit = true) (t : Text) :
    skipScalar (c :: t) = skipNumber (c :: t) := by
  unfold skipScalar
  split
  case h_7 => exact if_pos hc
  all_goals
    rename_i heq
    cases heq
    try cases hc

theorem opened?_of_isDigit (hc : c.isDigit = true) : opened? c = none := by
  unfold opened?
  split
  · cases hc
  · cases hc
  · rfl

/-! ## Steps -/

theorem skipFrom_scalar (hu : IsBlanks u) (hc : isBlank c = false) (hopened : opened? c = none)
    (hscalar : skipScalar (c :: t) = .ok rest) :
    skipFrom .value brackets (u ++ c :: t) = skipFrom .next brackets rest := by
  have hblanks := skipBlanks_append_cons hu hc t
  rw [skipFrom]
  split
  · rename_i h
    rw [hblanks] at h
    cases h
  · rename_i h
    rw [hblanks] at h
    cases h
    rw [hopened]
    dsimp only
    split
    · rename_i h
      rw [hscalar] at h
      cases h
    · rename_i h
      rw [hscalar] at h
      cases h
      rfl

theorem isBlank_opener (b : Bracket) : isBlank (opener b) = false := by
  cases b with
  | list => rfl
  | object => rfl

theorem isBlank_closer (b : Bracket) : isBlank (closer b) = false := by
  cases b with
  | list => rfl
  | object => rfl

theorem opened?_opener (b : Bracket) : opened? (opener b) = some b := by
  cases b with
  | list => rfl
  | object => rfl

theorem skipFrom_opener (hu : IsBlanks u) (hnext : skipBlanks t = c :: rest) :
    skipFrom .value brackets (u ++ opener b :: t) =
      if c = closer b then skipFrom .next brackets rest
      else skipFrom (firstStage b) (b :: brackets) t := by
  have hblanks := skipBlanks_append_cons hu (isBlank_opener b) t
  rw [skipFrom]
  split
  · rename_i h
    rw [hblanks] at h
    cases h
  · rename_i h
    rw [hblanks] at h
    cases h
    rw [opened?_opener]
    dsimp only
    split
    · rename_i h
      rw [hnext] at h
      cases h
    · rename_i h
      rw [hnext] at h
      cases h
      rfl

theorem skipFrom_comma (hw : IsBlanks w) (t : Text) :
    skipFrom .next (b :: brackets) (w ++ ',' :: t) =
      skipFrom (firstStage b) (b :: brackets) t := by
  have hblanks := skipBlanks_append_cons (c := ',') hw rfl t
  rw [skipFrom]
  split
  · rename_i h
    rw [hblanks] at h
    cases h
  · rename_i h
    rw [hblanks] at h
    cases h
    rw [if_pos rfl]

theorem skipFrom_closer (hw : IsBlanks w) (t : Text) :
    skipFrom .next (b :: brackets) (w ++ closer b :: t) = skipFrom .next brackets t := by
  have hblanks := skipBlanks_append_cons hw (isBlank_closer b) t
  have hcomma : closer b ≠ ',' := by
    cases b with
    | list => decide
    | object => decide
  rw [skipFrom]
  split
  · rename_i h
    rw [hblanks] at h
    cases h
  · rename_i h
    rw [hblanks] at h
    cases h
    rw [if_neg hcomma, if_pos rfl]

theorem readColon_append (hw : IsBlanks w) (t : Text) : readColon (w ++ ':' :: t) = .ok t := by
  rw [readColon, skipBlanks_append_cons hw rfl]
  rfl

theorem skipFrom_lead (h : IsLead b key) (t : Text) :
    skipFrom (firstStage b) brackets (key ++ t) = skipFrom .value brackets t := by
  cases h with
  | list => rfl
  | @object u body w hu hbody hw =>
      have hkey : skipKey (u ++ '"' :: (body ++ '"' :: (w ++ ':' :: t))) = .ok t := by
        rw [skipKey, skipBlanks_append_cons hu rfl]
        simp only [skipText_of_isBody hbody, readColon_append hw]
      simp only [List.append_assoc, List.cons_append, List.nil_append, firstStage]
      rw [skipFrom]
      split
      · rename_i h
        rw [hkey] at h
        cases h
      · rename_i h
        rw [hkey] at h
        cases h
        rfl

/-! ## Passing over -/

/-- What no value starts with. -/
def gaps : List Char := [' ', '\n', '\t', '\r', ']', '\x7d']

theorem isBlank_of_not_mem_gaps (h : c ∉ gaps) : isBlank c = false := by
  refine Bool.eq_false_iff.mpr fun hblank => h ?_
  exact List.mem_append_left [']', '\x7d'] (of_decide_eq_true hblank)

theorem ne_closer_of_not_mem_gaps (h : c ∉ gaps) (b : Bracket) : c ≠ closer b := by
  rintro rfl
  cases b with
  | list => exact h (by decide)
  | object => exact h (by decide)

theorem not_mem_gaps_of_isDigit (h : c.isDigit = true) : c ∉ gaps := by
  have hall : ∀ c ∈ gaps, (!c.isDigit) = true := List.all_eq_true.mp rfl
  intro hc
  have hnot := hall c hc
  rw [h] at hnot
  cases hnot

/-- A value is a string, or it starts like one of the others. -/
theorem WellFormed.eq_string_or_cons (h : WellFormed .value v) :
    (∃ body, v = '"' :: (body ++ ['"']) ∧ IsBody body) ∨
      ∃ c more, v = c :: more ∧ c ∉ gaps ∧ c ≠ '"' := by
  cases h with
  | null => exact Or.inr ⟨'n', _, rfl, by decide, by decide⟩
  | true => exact Or.inr ⟨'t', _, rfl, by decide, by decide⟩
  | false => exact Or.inr ⟨'f', _, rfl, by decide, by decide⟩
  | string hbody => exact Or.inl ⟨_, rfl, hbody⟩
  | natural hmagnitude =>
      obtain ⟨c, more, rfl, hc⟩ := exists_cons_of_isMagnitude hmagnitude
      refine Or.inr ⟨c, more, rfl, not_mem_gaps_of_isDigit hc, ?_⟩
      rintro rfl
      cases hc
  | negative _ => exact Or.inr ⟨'-', _, rfl, by decide, by decide⟩
  | empty b _ => exact Or.inr ⟨opener b, _, rfl, by cases b <;> decide, by cases b <;> decide⟩
  | @items _ b _ =>
      exact Or.inr ⟨opener b, _, rfl, by cases b <;> decide, by cases b <;> decide⟩

theorem exists_cons_of_wellFormed (h : WellFormed .value v) :
    ∃ c more, v = c :: more ∧ c ∉ gaps := by
  rcases h.eq_string_or_cons with ⟨body, rfl, -⟩ | ⟨c, more, rfl, hc, -⟩
  · exact ⟨'"', _, rfl, by decide⟩
  · exact ⟨c, more, rfl, hc⟩

theorem exists_skipBlanks_items (h : WellFormed (.items b) t) (rest : Text) :
    ∃ c more, skipBlanks (t ++ rest) = c :: more ∧ c ≠ closer b := by
  have hitem {lead u v after : Text} (hlead : IsLead b lead) (hu : IsBlanks u)
      (hv : WellFormed .value v) : ∃ c more,
        skipBlanks (lead ++ (u ++ (v ++ after))) = c :: more ∧ c ≠ closer b := by
    cases hlead with
    | list =>
        obtain ⟨c, more, rfl, hc⟩ := exists_cons_of_wellFormed hv
        refine ⟨c, more ++ after, ?_, ne_closer_of_not_mem_gaps hc _⟩
        exact skipBlanks_append_cons hu (isBlank_of_not_mem_gaps hc) _
    | object hu' _ _ =>
        rw [List.append_assoc]
        exact ⟨'"', _, skipBlanks_append_cons hu' rfl _, by decide⟩
  cases h with
  | last hlead hu hv _ =>
      simp only [List.append_assoc]
      exact hitem hlead hu hv
  | more hlead hu hv _ _ =>
      simp only [List.append_assoc]
      exact hitem hlead hu hv

/-- What passing over a text of a given form comes to. -/
def Passes (t : Text) : Form → Prop
  | .value => ∀ (brackets : List Bracket) (u rest : Text), IsBlanks u → Ends rest →
      skipFrom .value brackets (u ++ (t ++ rest)) = skipFrom .next brackets rest
  | .items b => ∀ (brackets : List Bracket) (rest : Text),
      skipFrom (firstStage b) (b :: brackets) (t ++ closer b :: rest) =
        skipFrom .next brackets rest

theorem passes_of_skipScalar (hc : c ∉ gaps) (hopened : opened? c = none)
    (h : ∀ {rest : Text}, Ends rest → skipScalar (c :: (t ++ rest)) = .ok rest) :
    Passes (c :: t) .value := fun _ _ _ hu hrest =>
  skipFrom_scalar hu (isBlank_of_not_mem_gaps hc) hopened (h hrest)

theorem ends_closer (hw : IsBlanks w) (b : Bracket) (t : Text) : Ends (w ++ closer b :: t) :=
  Ends.blanks_append hw (by cases b <;> decide) t

theorem passes_of_wellFormed {form : Form} (h : WellFormed form t) : Passes t form := by
  induction h with
  | null =>
      exact passes_of_skipScalar (c := 'n') (by decide) rfl fun _ => readIdent_append _ _
  | true =>
      exact passes_of_skipScalar (c := 't') (by decide) rfl fun _ => readIdent_append _ _
  | false =>
      exact passes_of_skipScalar (c := 'f') (by decide) rfl fun _ => readIdent_append _ _
  | string hbody =>
      refine passes_of_skipScalar (by decide) rfl fun _ => ?_
      rw [List.append_assoc]
      exact skipText_of_isBody hbody _
  | natural hmagnitude =>
      obtain ⟨c, more, rfl, hc⟩ := exists_cons_of_isMagnitude hmagnitude
      have hscalar {rest : Text} (hrest : Ends rest) :
          skipScalar (c :: (more ++ rest)) = .ok rest := by
        rw [skipScalar_digit hc]
        exact skipNumber_append hmagnitude hrest
      exact passes_of_skipScalar (not_mem_gaps_of_isDigit hc) (opened?_of_isDigit hc) hscalar
  | negative hmagnitude =>
      exact passes_of_skipScalar (c := '-') (by decide) rfl fun hrest =>
        skipNumber_append hmagnitude hrest
  | @empty w b hw =>
      intro brackets u rest hu _
      have hnext := skipBlanks_append_cons hw (isBlank_closer b) rest
      rw [List.cons_append, List.append_assoc, List.singleton_append, skipFrom_opener hu hnext,
        if_pos rfl]
  | @items t b hitems ih =>
      intro brackets u rest hu _
      obtain ⟨c, more, hnext, hc⟩ := exists_skipBlanks_items hitems (closer b :: rest)
      rw [List.cons_append, List.append_assoc, List.singleton_append, skipFrom_opener hu hnext,
        if_neg hc]
      exact ih brackets rest
  | last hlead hu _ hw ih =>
      intro brackets rest
      simp only [List.append_assoc]
      rw [skipFrom_lead hlead, ih _ _ _ hu (ends_closer hw _ rest), skipFrom_closer hw]
  | more hlead hu _ hw _ ih ih' =>
      intro brackets rest
      simp only [List.append_assoc, List.cons_append]
      rw [skipFrom_lead hlead, ih _ _ _ hu (.blanks_append hw (by decide) _), skipFrom_comma hw]
      exact ih' brackets rest

/-- **Whatever is well formed is passed over**, with the blanks in front of it. -/
theorem skipValue_of_wellFormed (h : WellFormed .value v) (hu : IsBlanks u) (hrest : Ends rest) :
    skipValue (u ++ (v ++ rest)) = .ok rest := by
  rw [skipValue, (passes_of_wellFormed h : Passes v .value) [] u rest hu hrest, skipFrom]

end StoryScript.Json
