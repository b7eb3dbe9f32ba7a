/-
# `StoryScript.Proofs.Scene.Name` — what a scene's name may hold

The name that is made from a heading holds no separator but the underscore, and every other
character of the heading (`mem_plainName_iff`).  The only way for another separator to come
into the name is the token, which is put in as it is; what it takes the place of are the five
letters of a word (`renamed_cases`).
-/
import StoryScript.Proofs.Text.Blank
import StoryScript.Scene.Name

namespace StoryScript.Scene

theorem not_mem_underscored {c : Char} (hc : isSeparator c = true) (h : c ≠ '_') (t : Text) :
    c ∉ underscored t := by
  intro hmem
  obtain ⟨x, -, hx⟩ := List.mem_map.mp hmem
  split at hx
  · exact h hx.symm
  · rename_i hsep
    rw [hx] at hsep
    exact hsep hc

theorem squeezed_subset (t : Text) : squeezed t ⊆ t := by
  induction t with
  | nil => exact List.Subset.refl _
  | cons c rest ih =>
      rw [squeezed]
      split
      · exact List.subset_cons_of_subset c ih
      · exact List.cons_subset_cons c ih

theorem stripped_subset (t : Text) : stripped t ⊆ t :=
  List.Subset.trans (Text.dropEndWhile_subset _ _) (List.dropWhile_sublist _).subset

theorem not_mem_plainName {c : Char} (hc : isSeparator c = true) (h : c ≠ '_') (heading : Text) :
    c ∉ plainName heading :=
  fun hmem => not_mem_underscored hc h heading (squeezed_subset _ (stripped_subset _ hmem))

/-! ## What stays -/

section

variable {c : Char}

theorem mem_underscored_iff (h : isSeparator c = false) {t : Text} :
    c ∈ underscored t ↔ c ∈ t := by
  rw [underscored, List.mem_map]
  constructor
  · rintro ⟨x, hx, rfl⟩
    split at h
    · cases h
    · rename_i hsep
      rwa [if_neg hsep]
  · exact fun hc => ⟨c, hc, if_neg (Bool.eq_false_iff.mp h)⟩

theorem mem_squeezed_iff (h : c ≠ '_') {t : Text} : c ∈ squeezed t ↔ c ∈ t := by
  induction t with
  | nil => rfl
  | cons d rest ih =>
      rw [squeezed]
      split
      · rename_i hrun
        rw [ih, List.mem_cons, or_iff_right (hrun.1 ▸ h)]
      · rw [List.mem_cons, ih, List.mem_cons]

/-- A character that is no separator is in the name exactly if it is in the heading. -/
theorem mem_plainName_iff (h : isSeparator c = false) {heading : Text} :
    c ∈ plainName heading ↔ c ∈ heading := by
  have hne : c ≠ '_' := by
    rintro rfl
    cases h
  have hkept : (c == '_') = false := beq_eq_false_iff_ne.mpr hne
  rw [plainName, stripped, Text.mem_dropEndWhile_iff (p := (· == '_')) hkept,
    Text.mem_dropWhile_iff (p := (· == '_')) hkept, mem_squeezed_iff hne, mem_underscored_iff h]

end

/-! ## The renaming -/

theorem renamed_cases (token t : Text) :
    renamed token t = t ∨ ∃ s c e n a rest, isSceneWord s c e n a = true ∧
      t = [s, c, e, n, a] ++ '_' :: rest ∧ renamed token t = token ++ '_' :: rest := by
  unfold renamed
  split
  · rename_i s c e n a rest
    split
    · rename_i hword
      exact Or.inr ⟨s, c, e, n, a, rest, hword, rfl, rfl⟩
    · exact Or.inl rfl
  · exact Or.inl rfl

theorem mem_of_mem_renamed {token t : Text} {c : Char} (h : c ∈ renamed token t) :
    c ∈ token ∨ c ∈ t := by
  rcases renamed_cases token t with hsame | ⟨_, _, _, _, _, rest, -, ht, hrest⟩
  · exact Or.inr (hsame ▸ h)
  · rw [hrest, List.mem_append] at h
    rw [ht]
    exact h.imp_right (List.mem_append_right [_, _, _, _, _])

theorem not_mem_name {token : Text} {c : Char} (hc : isSeparator c = true) (h : c ≠ '_')
    (htoken : c ∉ token) (heading : Text) : c ∉ name token heading := by
  intro hmem
  rcases mem_of_mem_renamed hmem with hmem | hmem
  · exact htoken hmem
  · exact not_mem_plainName hc h heading hmem

/-- If the token has no separator, underscores are the only ones that a name has. -/
theorem eq_underscore_of_mem_name {token : Text} (htoken : ∀ c ∈ token, isSeparator c = false)
    {heading : Text} {c : Char} (h : c ∈ name token heading) (hc : isSeparator c = true) :
    c = '_' := by
  by_contra hne
  have hmem : c ∉ token := fun hmem => Bool.false_ne_true ((htoken c hmem).symm.trans hc)
  exact not_mem_name hc hne hmem heading h

end StoryScript.Scene
