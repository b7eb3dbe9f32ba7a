/-
# `StoryScript.Proofs.Text.LowerCase` — lower case leaves blanks where they are

No capital is blank and no small letter is either, so a text has blanks at its ends
exactly if its lower case has (`trim_lower_eq_self_iff`).  Two texts that are compared
without case therefore have to be trimmed alike.

The mapping is a table of runs.  That neither a run nor its images meet a blank is a
property of the table, and is checked run by run (`lowerRuns_clear`).
-/
import Mathlib.Data.List.Basic
import StoryScript.Proofs.Text.Blank
import StoryScript.Text.LowerCase

namespace StoryScript.Text

/-! ## Characters -/

/-- The numbers of the blanks. -/
def blankCodes : List Nat :=
  [0x09, 0x0A, 0x0B, 0x0C, 0x0D, 0x20, 0x85, 0xA0, 0x1680, 0x2000, 0x2001, 0x2002, 0x2003, 0x2004,
    0x2005, 0x2006, 0x2007, 0x2008, 0x2009, 0x200A, 0x2028, 0x2029, 0x202F, 0x205F, 0x3000]

theorem isBlank_iff {c : Char} : isBlank c = true ↔ c.toNat ∈ blankCodes := by
  simp only [isBlank, blankCodes, Bool.or_eq_true, Bool.and_eq_true, decide_eq_true_eq,
    beq_iff_eq, List.mem_cons, List.not_mem_nil, or_false]
  omega

/-- The run has no blank among its characters and none among their images. -/
def LowerRun.isClear (r : LowerRun) : Bool :=
  blankCodes.all fun n => (decide (n < r.first) || decide (r.last < n)) &&
    (decide (n < r.image) || decide (r.image + (r.last - r.first) < n))

theorem LowerRun.isClear_iff (r : LowerRun) :
    r.isClear = true ↔ ∀ n ∈ blankCodes, (n < r.first ∨ r.last < n) ∧
      (n < r.image ∨ r.image + (r.last - r.first) < n) := by
  simp only [isClear, List.all_eq_true, Bool.and_eq_true, Bool.or_eq_true, decide_eq_true_eq]

theorem lowerRuns_clear : ∀ r ∈ lowerRuns, r.isClear = true := by
  decide +kernel

theorem LowerRun.bounds_of_covers {r : LowerRun} {n : Nat} (h : r.covers n = true) :
    r.first ≤ n ∧ n ≤ r.last := by
  simp only [covers, Bool.and_eq_true, decide_eq_true_eq] at h
  exact h.1

theorem toNat_ofNat_cases (n : Nat) : (Char.ofNat n).toNat = n ∨ (Char.ofNat n).toNat = 0 := by
  by_cases h : n.isValidChar
  · left
    rw [Char.ofNat, dif_pos h]
    rfl
  · right
    rw [Char.ofNat, dif_neg h]
    rfl

/-- Lower case makes no blank of another character, and nothing else of a blank. -/
theorem isBlank_lowerChar (c : Char) : isBlank (lowerChar c) = isBlank c := by
  unfold lowerChar
  cases hfind : lowerRuns.find? (·.covers c.toNat) with
  | none => rfl
  | some r =>
      have hcovers := List.find?_some hfind
      obtain ⟨hfirst, hlast⟩ := LowerRun.bounds_of_covers hcovers
      have hclear := (LowerRun.isClear_iff r).mp
        (lowerRuns_clear r (List.mem_of_find?_eq_some hfind))
      have hcapital : isBlank c = false := by
        rw [Bool.eq_false_iff]
        intro hblank
        obtain ⟨hrun, -⟩ := hclear _ (isBlank_iff.mp hblank)
        omega
      have hsmall : isBlank (Char.ofNat (r.image + (c.toNat - r.first))) = false := by
        rw [Bool.eq_false_iff]
        intro hblank
        have hmem := isBlank_iff.mp hblank
        rcases toNat_ofNat_cases (r.image + (c.toNat - r.first)) with hnat | hnat
        · rw [hnat] at hmem
          obtain ⟨-, hrun⟩ := hclear _ hmem
          omega
        · rw [hnat] at hmem
          exact absurd hmem (by decide)
      rw [hcapital]
      exact hsmall

/-! ## Texts -/

theorem exists_lowerAfter_cons (before : Text) (c : Char) (rest : Text) :
    ∃ image, lowerAfter before (c :: rest) = image ++ lowerAfter (c :: before) rest ∧
      image ≠ [] ∧ ∀ x ∈ image, isBlank x = isBlank c := by
  refine ⟨_, rfl, ?_⟩
  by_cases hsigma : c = 'Σ'
  · rw [if_pos hsigma, hsigma]
    refine ⟨List.cons_ne_nil _ _, List.forall_mem_singleton.mpr ?_⟩
    unfold lowerSigma
    split
    · decide
    · decide
  · by_cases hdotted : c = 'İ'
    · rw [if_neg hsigma, if_pos hdotted, hdotted]
      refine ⟨List.cons_ne_nil _ _, List.forall_mem_cons.mpr ⟨?_, List.forall_mem_singleton.mpr ?_⟩⟩
      · decide
      · decide
    · rw [if_neg hsigma, if_neg hdotted]
      exact ⟨List.cons_ne_nil _ _, List.forall_mem_singleton.mpr (isBlank_lowerChar c)⟩

theorem head?_lowerAfter (before t : Text) :
    (lowerAfter before t).head?.map isBlank = t.head?.map isBlank := by
  cases t with
  | nil => rfl
  | cons c rest =>
      obtain ⟨image, himage, hne, hblank⟩ := exists_lowerAfter_cons before c rest
      obtain ⟨x, more, rfl⟩ := List.exists_cons_of_ne_nil hne
      rw [himage]
      exact congrArg some (hblank x List.mem_cons_self)

theorem lowerAfter_eq_nil_iff {before t : Text} : lowerAfter before t = [] ↔ t = [] := by
  cases t with
  | nil => exact ⟨fun _ => rfl, fun _ => rfl⟩
  | cons c rest =>
      obtain ⟨image, himage, hne, -⟩ := exists_lowerAfter_cons before c rest
      rw [himage, List.append_eq_nil_iff]
      exact ⟨fun h => absurd h.1 hne, fun h => absurd h (List.cons_ne_nil _ _)⟩

theorem getLast?_lowerAfter (before t : Text) :
    (lowerAfter before t).getLast?.map isBlank = t.getLast?.map isBlank := by
  induction t generalizing before with
  | nil => rfl
  | cons c rest ih =>
      obtain ⟨image, himage, hne, hblank⟩ := exists_lowerAfter_cons before c rest
      rw [himage]
      by_cases hrest : rest = []
      · -- the last character of the text has the last one of its image for an end
        rw [hrest]
        obtain ⟨init, x, rfl⟩ := List.eq_nil_or_concat image |>.resolve_left hne
        rw [List.concat_eq_append] at hblank ⊢
        rw [lowerAfter, List.append_nil, List.getLast?_concat]
        exact congrArg some (hblank x (List.mem_append_right _ List.mem_cons_self))
      · have hlower : lowerAfter (c :: before) rest ≠ [] := mt lowerAfter_eq_nil_iff.mp hrest
        rw [List.getLast?_append_of_ne_nil _ hlower, ih]
        obtain ⟨d, more, rfl⟩ := List.exists_cons_of_ne_nil hrest
        rw [List.getLast?_cons_cons]

theorem trim_lower_eq_self_iff (t : Text) : trim (lower t) = lower t ↔ trim t = t := by
  rw [trim_eq_self_iff, trim_eq_self_iff, lower, head?_lowerAfter, getLast?_lowerAfter]

end StoryScript.Text
