/-
# `StoryScript.Proofs.Scene.Word` — the word that gives way to the token

A heading may open with `scene` or `scena` in any case, and any case is a matter of
simple case folding: two characters are variants of each other if they fold to the same
one.  For the letters of the two words these are

    s S ſ      c C      e E      n N      a A

and no others, which is read off the tables of the folding here (`foldChar_eq_iff`).  The
long s is there because it folds to a plain one; the letter with the capital Kelvin sign
for a variant does not occur.
-/
import StoryScript.Proofs.Text.LowerCase
import StoryScript.Scene.Name
import StoryScript.Text.Folding

namespace StoryScript

namespace Text

/-- The letters of the two words, each with its variants. -/
def sceneLetters : List (Char × List Char) :=
  [('s', ['s', 'S', 'ſ']), ('c', ['c', 'C']), ('e', ['e', 'E']), ('n', ['n', 'N']),
    ('a', ['a', 'A'])]

/-- The run of the ASCII capitals is the only one that has a letter of the words for an image. -/
theorem lowerRuns_sceneLetters : ∀ r ∈ lowerRuns, (r.first = 0x41 ∧ r.image = 0x61) ∨
    ∀ letter ∈ sceneLetters,
      letter.1.toNat < r.image ∨ r.image + (r.last - r.first) < letter.1.toNat := by
  decide +kernel

theorem foldExceptions_sceneLetters : ∀ letter ∈ sceneLetters, ∀ pair ∈ foldExceptions,
    pair.2 = letter.1 → pair.1 ∈ letter.2 := by
  decide

theorem sceneLetters_capital : ∀ letter ∈ sceneLetters,
    letter.1 ∈ letter.2 ∧ letter.1.toNat ≠ 0 ∧ Char.ofNat (letter.1.toNat - 32) ∈ letter.2 := by
  decide

theorem foldChar_of_mem_variants : ∀ letter ∈ sceneLetters, ∀ c ∈ letter.2,
    foldChar c = letter.1 := by
  have hall : sceneLetters.all fun letter => letter.2.all (foldChar · == letter.1) := by decide
  intro letter hletter c hc
  exact beq_iff_eq.mp (List.all_eq_true.mp (List.all_eq_true.mp hall letter hletter) c hc)

theorem mem_variants_of_lowerChar {letter : Char × List Char} (h : letter ∈ sceneLetters)
    {c : Char} (hc : lowerChar c = letter.1) : c ∈ letter.2 := by
  obtain ⟨hself, hne, hcapital⟩ := sceneLetters_capital letter h
  unfold lowerChar at hc
  cases hfind : lowerRuns.find? (·.covers c.toNat) with
  | none =>
      rw [hfind] at hc
      have hc : c = letter.1 := hc
      rwa [hc]
  | some r =>
      rw [hfind] at hc
      have hcovers := List.find?_some hfind
      obtain ⟨hfirst, hlast⟩ := LowerRun.bounds_of_covers hcovers
      have hnat : r.image + (c.toNat - r.first) = letter.1.toNat := by
        rcases toNat_ofNat_cases (r.image + (c.toNat - r.first)) with hcode | hcode
        · rw [← hcode]
          exact congrArg Char.toNat hc
        · exact absurd ((congrArg Char.toNat hc).symm.trans hcode) hne
      rcases lowerRuns_sceneLetters r (List.mem_of_find?_eq_some hfind) with ⟨hA, ha⟩ | hother
      · have hcode : letter.1.toNat - 32 = c.toNat := by omega
        rwa [hcode, Char.ofNat_toNat] at hcapital
      · have hrange := hother letter h
        omega

/-- **The variants of a letter are the characters that fold to it.** -/
theorem foldChar_eq_iff {letter : Char × List Char} (h : letter ∈ sceneLetters) {c : Char} :
    foldChar c = letter.1 ↔ c ∈ letter.2 := by
  constructor
  · intro hc
    unfold foldChar at hc
    cases hfind : foldExceptions.find? (·.1 == c) with
    | none =>
        rw [hfind] at hc
        exact mem_variants_of_lowerChar h hc
    | some pair =>
        rw [hfind] at hc
        have hpair := foldExceptions_sceneLetters letter h pair
          (List.mem_of_find?_eq_some hfind) hc
        have hfound := List.find?_some hfind
        rwa [beq_iff_eq.mp hfound] at hpair
  · exact foldChar_of_mem_variants letter h c

end Text

namespace Scene

/-- The words that give way to the token. -/
def words : List Text := ["scene".toList, "scena".toList]

/-- Whether the text is one of the two words but for the case. -/
def isWord (t : Text) : Bool := words.contains (t.map Text.foldChar)

theorem isWord_iff {t : Text} : isWord t = true ↔ t.map Text.foldChar ∈ words :=
  List.contains_iff_mem

theorem isWord_eq_isSceneWord (s c e n a : Char) :
    isWord [s, c, e, n, a] = isSceneWord s c e n a := by
  have hs := @Text.foldChar_eq_iff ('s', ['s', 'S', 'ſ']) (by decide) s
  have hc := @Text.foldChar_eq_iff ('c', ['c', 'C']) (by decide) c
  have he := @Text.foldChar_eq_iff ('e', ['e', 'E']) (by decide) e
  have hn := @Text.foldChar_eq_iff ('n', ['n', 'N']) (by decide) n
  have ha := @Text.foldChar_eq_iff ('a', ['a', 'A']) (by decide) a
  have he' := @Text.foldChar_eq_iff ('e', ['e', 'E']) (by decide) a
  have hscene : "scene".toList = ['s', 'c', 'e', 'n', 'e'] := rfl
  have hscena : "scena".toList = ['s', 'c', 'e', 'n', 'a'] := rfl
  have hlast : a ∈ ['a', 'A', 'e', 'E'] ↔ a ∈ ['e', 'E'] ∨ a ∈ ['a', 'A'] :=
    (@List.mem_append _ a ['a', 'A'] ['e', 'E']).trans or_comm
  rw [Bool.eq_iff_iff, isWord_iff, words, List.mem_pair, hscene, hscena]
  simp only [List.map_cons, List.map_nil, List.cons.injEq, and_true, hs, hc, he, hn, ha, he',
    isSceneWord, Bool.and_eq_true, decide_eq_true_eq, hlast, and_assoc, ← and_or_left]

theorem length_of_isWord {t : Text} (h : isWord t = true) : t.length = 5 := by
  have hwords : ∀ word ∈ words, word.length = 5 := by decide
  rw [← List.length_map Text.foldChar]
  exact hwords _ (isWord_iff.mp h)

theorem isWord_iff_exists {t : Text} :
    isWord t = true ↔ ∃ s ∈ ['s', 'S', 'ſ'], ∃ c ∈ ['c', 'C'], ∃ e ∈ ['e', 'E'],
      ∃ n ∈ ['n', 'N'], ∃ a ∈ ['a', 'A', 'e', 'E'], t = [s, c, e, n, a] := by
  constructor
  · intro h
    match t, length_of_isWord h with
    | [s, c, e, n, a], _ =>
      rw [isWord_eq_isSceneWord] at h
      simp only [isSceneWord, Bool.and_eq_true, decide_eq_true_eq] at h
      obtain ⟨⟨⟨⟨hs, hc⟩, he⟩, hn⟩, ha⟩ := h
      exact ⟨s, hs, c, hc, e, he, n, hn, a, ha, rfl⟩
  · rintro ⟨s, hs, c, hc, e, he, n, hn, a, ha, rfl⟩
    rw [isWord_eq_isSceneWord]
    simp only [isSceneWord, Bool.and_eq_true, decide_eq_true_eq]
    exact ⟨⟨⟨⟨hs, hc⟩, he⟩, hn⟩, ha⟩

end Scene

end StoryScript
