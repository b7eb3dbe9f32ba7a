/-
# `StoryScript.Proofs.Text.Blank` — what is cut off a text

Cutting at the ends of a text adds nothing to it, so a character that is not in the
text is not in what is left of it either.  And blanks that are put in front of a text or
behind it are cut off again, together with those that were there before.  Given words are cut
off at an end exactly if the text has them there.
-/
import Mathlib.Data.List.Basic
import Mathlib.Data.List.TakeWhile
import StoryScript.Text.Blank

namespace StoryScript.Text

theorem trimStart_subset (t : Text) : trimStart t ⊆ t :=
  (List.dropWhile_sublist isBlank).subset

theorem dropEndWhile_subset (p : Char → Bool) (t : Text) : dropEndWhile p t ⊆ t := by
  intro c hc
  rw [dropEndWhile, List.mem_reverse] at hc
  exact List.mem_reverse.mp ((List.dropWhile_sublist p).subset hc)

theorem trim_subset (t : Text) : trim t ⊆ t :=
  List.Subset.trans (dropEndWhile_subset isBlank _) (trimStart_subset t)

theorem mem_dropWhile_iff {p : Char → Bool} {c : Char} (h : p c = false) {t : Text} :
    c ∈ t.dropWhile p ↔ c ∈ t := by
  refine ⟨fun hc => (List.dropWhile_sublist p).subset hc, fun hc => ?_⟩
  rw [← List.takeWhile_append_dropWhile (p := p) (l := t), List.mem_append] at hc
  refine hc.resolve_left fun htake => ?_
  rw [List.mem_takeWhile_imp htake] at h
  cases h

theorem mem_dropEndWhile_iff {p : Char → Bool} {c : Char} (h : p c = false) {t : Text} :
    c ∈ dropEndWhile p t ↔ c ∈ t := by
  rw [dropEndWhile, List.mem_reverse, mem_dropWhile_iff h, List.mem_reverse]

theorem mem_trim_iff {c : Char} (h : isBlank c = false) {t : Text} : c ∈ trim t ↔ c ∈ t := by
  rw [trim, mem_dropEndWhile_iff h, trimStart, mem_dropWhile_iff h]

theorem dropEndWhile_append_takeWhile (p : Char → Bool) (t : Text) :
    dropEndWhile p t ++ (t.reverse.takeWhile p).reverse = t := by
  rw [dropEndWhile, ← List.reverse_append, List.takeWhile_append_dropWhile, List.reverse_reverse]

/-! ## Given words at the ends -/

section

variable {α : Type} [BEq α] [LawfulBEq α] {t front back rest : List α}

theorem dropPrefix?_eq_some_iff : t.dropPrefix? front = some rest ↔ t = front ++ rest := by
  simp [List.dropPrefix?_eq_some_iff]

theorem dropSuffix?_eq_some_iff : t.dropSuffix? back = some rest ↔ t = rest ++ back := by
  simp [List.dropSuffix?_eq_some_iff]

theorem dropPrefix?_append (front rest : List α) :
    (front ++ rest).dropPrefix? front = some rest :=
  dropPrefix?_eq_some_iff.mpr rfl

theorem dropSuffix?_append (rest back : List α) :
    (rest ++ back).dropSuffix? back = some rest :=
  dropSuffix?_eq_some_iff.mpr rfl

end

/-! ## Nothing to cut off -/

theorem dropWhile_eq_self_iff {p : Char → Bool} {t : Text} :
    t.dropWhile p = t ↔ t.head?.map p ≠ some true := by
  cases t with
  | nil => exact ⟨fun _ => nofun, fun _ => rfl⟩
  | cons c rest =>
      rw [List.dropWhile_eq_self_iff, List.head?_cons, Option.map_some, Ne, Option.some_inj]
      exact ⟨fun h => h (Nat.zero_lt_succ _), fun h _ => h⟩

theorem dropEndWhile_eq_self_iff {p : Char → Bool} {t : Text} :
    dropEndWhile p t = t ↔ t.getLast?.map p ≠ some true := by
  rw [dropEndWhile, List.reverse_eq_iff, dropWhile_eq_self_iff, List.head?_reverse]

theorem dropEndWhile_prefix (p : Char → Bool) (t : Text) : dropEndWhile p t <+: t := by
  rw [dropEndWhile, ← List.reverse_suffix, List.reverse_reverse]
  exact List.dropWhile_suffix p

theorem dropEndWhile_cons (p : Char → Bool) (c : Char) (t : Text) :
    dropEndWhile p (c :: t) =
      if dropEndWhile p t = [] ∧ p c = true then [] else c :: dropEndWhile p t := by
  rw [dropEndWhile, List.reverse_cons, List.dropWhile_append, dropEndWhile]
  cases t.reverse.dropWhile p with
  | nil => cases hc : p c <;> simp [hc]
  | cons _ _ => simp

theorem head?_dropWhile (p : Char → Bool) (t : Text) :
    (t.dropWhile p).head?.map p ≠ some true := by
  intro h
  obtain ⟨c, hc, hp⟩ := Option.map_eq_some_iff.mp h
  have hnot := List.head?_dropWhile_not p t
  simp only [hc] at hnot
  rw [hp] at hnot
  cases hnot

theorem head?_dropEndWhile_dropWhile (p : Char → Bool) (t : Text) :
    (dropEndWhile p (t.dropWhile p)).head?.map p ≠ some true := by
  intro h
  obtain ⟨c, hc, hp⟩ := Option.map_eq_some_iff.mp h
  obtain ⟨rest, hrest⟩ := List.head?_eq_some_iff.mp hc
  obtain ⟨back, hback⟩ := dropEndWhile_prefix p (t.dropWhile p)
  refine head?_dropWhile p t ?_
  rw [← hback, hrest]
  exact congrArg some hp

theorem getLast?_dropEndWhile (p : Char → Bool) (t : Text) :
    (dropEndWhile p t).getLast?.map p ≠ some true := by
  rw [dropEndWhile, List.getLast?_reverse]
  exact head?_dropWhile p _

theorem head?_trim (t : Text) : (trim t).head?.map isBlank ≠ some true :=
  head?_dropEndWhile_dropWhile isBlank t

theorem getLast?_trim (t : Text) : (trim t).getLast?.map isBlank ≠ some true :=
  getLast?_dropEndWhile isBlank _

theorem trim_eq_self_iff {t : Text} :
    trim t = t ↔ t.head?.map isBlank ≠ some true ∧ t.getLast?.map isBlank ≠ some true := by
  constructor
  · intro h
    have hhead := head?_trim t
    have hlast := getLast?_trim t
    rw [h] at hhead hlast
    exact ⟨hhead, hlast⟩
  · rintro ⟨hhead, hlast⟩
    rw [trim, trimStart, dropWhile_eq_self_iff.mpr hhead, dropEndWhile_eq_self_iff.mpr hlast]

theorem trim_eq_self_of_forall {t : Text} (h : ∀ c ∈ t, ¬ isBlank c = true) : trim t = t := by
  refine trim_eq_self_iff.mpr ⟨?_, ?_⟩
  · rw [Ne, Option.map_eq_some_iff]
    exact fun ⟨c, hc, hblank⟩ => h c (List.mem_of_head? hc) hblank
  · rw [Ne, Option.map_eq_some_iff]
    exact fun ⟨c, hc, hblank⟩ => h c (List.mem_of_getLast? hc) hblank

theorem trim_trim (t : Text) : trim (trim t) = trim t :=
  trim_eq_self_iff.mpr ⟨head?_trim t, getLast?_trim t⟩

/-! ## Blanks around a text -/

theorem toNat_of_isAlpha {c : Char} (h : c.isAlpha = true) :
    (65 ≤ c.toNat ∧ c.toNat ≤ 90) ∨ (97 ≤ c.toNat ∧ c.toNat ≤ 122) := by
  rcases Bool.or_eq_true_iff.mp h with hupper | hlower
  · obtain ⟨hlow, hhigh⟩ := of_decide_eq_true hupper
    exact Or.inl ⟨UInt32.le_iff_toNat_le.mp hlow, UInt32.le_iff_toNat_le.mp hhigh⟩
  · obtain ⟨hlow, hhigh⟩ := Bool.and_eq_true_iff.mp hlower
    exact Or.inr ⟨UInt32.le_iff_toNat_le.mp (of_decide_eq_true hlow),
      UInt32.le_iff_toNat_le.mp (of_decide_eq_true hhigh)⟩

theorem toNat_of_isAlphanum {c : Char} (h : c.isAlphanum = true) :
    (65 ≤ c.toNat ∧ c.toNat ≤ 90) ∨ (97 ≤ c.toNat ∧ c.toNat ≤ 122) ∨
      (48 ≤ c.toNat ∧ c.toNat ≤ 57) := by
  rcases Bool.or_eq_true_iff.mp h with halpha | hdigit
  · rw [← or_assoc]
    exact Or.inl (toNat_of_isAlpha halpha)
  · exact Or.inr (Or.inr (Char.isDigit_iff_toNat.mp hdigit))

theorem isDigit_of_isAlpha {c : Char} (h : c.isAlpha = true) : c.isDigit = false := by
  have hletter := toNat_of_isAlpha h
  rw [Bool.eq_false_iff]
  intro hdigit
  have hdigit : 48 ≤ c.toNat ∧ c.toNat ≤ 57 := Char.isDigit_iff_toNat.mp hdigit
  omega

theorem not_isBlank_of_isAlphanum {c : Char} (h : c.isAlphanum = true) : ¬ isBlank c = true := by
  intro hblank
  have hletter := toNat_of_isAlphanum h
  simp only [isBlank, Bool.or_eq_true, Bool.and_eq_true, decide_eq_true_eq, beq_iff_eq] at hblank
  omega

theorem dropEndWhile_append {p : Char → Bool} {w : Text} (h : ∀ c ∈ w, p c = true) (t : Text) :
    dropEndWhile p (t ++ w) = dropEndWhile p t := by
  have hw : ∀ c ∈ w.reverse, p c = true := fun c hc => h c (List.mem_reverse.mp hc)
  rw [dropEndWhile, List.reverse_append, List.dropWhile_append_of_pos hw, dropEndWhile]

theorem trim_blanks_append {w : Text} (h : ∀ c ∈ w, isBlank c = true) (t : Text) :
    trim (w ++ t) = trim t := by
  rw [trim, trim, trimStart, trimStart, List.dropWhile_append_of_pos h]

theorem trim_append_blanks {w : Text} (h : ∀ c ∈ w, isBlank c = true) (t : Text) :
    trim (t ++ w) = trim t := by
  rw [trim, trim, trimStart, List.dropWhile_append]
  split
  · rename_i hblank
    -- nothing but blanks: both texts are cut down to nothing
    have hw : w.dropWhile isBlank = [] := List.dropWhile_eq_nil_iff.mpr h
    rw [hw, trimStart, List.isEmpty_iff.mp hblank]
  · exact dropEndWhile_append h _

end StoryScript.Text
