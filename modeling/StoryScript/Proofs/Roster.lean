/-
# `StoryScript.Proofs.Roster` — a roster holds first appearances

Names are offered to a roster one after the other, and a name that is on it already
is refused.  So what the roster holds is the list of all names that were offered,
with every later repeat dropped, which the library calls `List.eraseDups`.

One step keeps this (`Roster.names_getD_enter?`), and so do all the steps together
(`Roster.names_ofOffered`), whatever is answered in them: what a scene that comes
again is told and what a speaker who is heard again is told are two answers to one
question, if the name is among the earlier ones (`Roster.holds_first_appearances`).
-/
import Mathlib.Data.List.Induction
import Mathlib.Data.List.Nodup
import StoryScript.Roster

namespace StoryScript

theorem eraseDups_concat (names : List Text) (n : Text) :
    (names ++ [n]).eraseDups = if n ∈ names then names.eraseDups else names.eraseDups ++ [n] := by
  rw [List.eraseDups_append]
  split
  · rename_i h
    simp [List.removeAll, h]
  · rename_i h
    simp [List.removeAll, h, List.eraseDups_cons]

theorem nodup_eraseDups (names : List Text) : names.eraseDups.Nodup := by
  induction names using List.reverseRecOn with
  | nil => exact List.nodup_nil
  | append_singleton names n ih =>
      rw [eraseDups_concat]
      split
      · exact ih
      · rename_i h
        rw [← List.concat_eq_append]
        exact ih.concat fun hn => h (List.mem_eraseDups.mp hn)

namespace Roster

/-- If a roster holds the names that were offered so far, then it holds these and one more after
that has been offered as well; a name that is refused is on it already. -/
theorem names_getD_enter? {r : Roster} {offered : List Text} (h : r.names = offered.eraseDups)
    (n : Text) : ((r.enter? n).getD r).names = (offered ++ [n]).eraseDups := by
  have hmem : n ∈ r ↔ n ∈ offered := by rw [mem_names, h, List.mem_eraseDups]
  rw [eraseDups_concat, ← h]
  cases henter : r.enter? n with
  | none =>
      rw [if_pos (hmem.mp (enter?_eq_none_iff.mp henter))]
      rfl
  | some r' =>
      rw [if_neg (mt hmem.mpr (not_mem_of_enter? henter))]
      exact names_enter? henter

/-! ## Names one after the other -/

/-- The roster that comes of offering names one after the other, beginning with the empty one. -/
def ofOffered (offered : List Text) : Roster :=
  offered.foldl (fun r n => (r.enter? n).getD r) ∅

theorem ofOffered_concat (offered : List Text) (n : Text) :
    ofOffered (offered ++ [n]) = ((ofOffered offered).enter? n).getD (ofOffered offered) := by
  rw [ofOffered, List.foldl_append]
  rfl

theorem names_ofOffered (offered : List Text) : (ofOffered offered).names = offered.eraseDups := by
  induction offered using List.reverseRecOn with
  | nil => rfl
  | append_singleton offered n ih =>
      rw [ofOffered_concat]
      exact names_getD_enter? ih n

theorem mem_ofOffered {offered : List Text} {n : Text} : n ∈ ofOffered offered ↔ n ∈ offered := by
  rw [mem_names, names_ofOffered, List.mem_eraseDups]

theorem ofOffered_concat_of_mem {offered : List Text} {n : Text} (h : n ∈ offered) :
    ofOffered (offered ++ [n]) = ofOffered offered := by
  rw [ofOffered_concat, enter?_eq_none_iff.mpr (mem_ofOffered.mpr h)]
  rfl

theorem names_ofOffered_mono {offered offered' : List Text} (h : offered <+: offered') :
    (ofOffered offered).names <+: (ofOffered offered').names := by
  obtain ⟨more, rfl⟩ := h
  rw [names_ofOffered, names_ofOffered, List.eraseDups_append]
  exact List.prefix_append _ _

theorem foldl_register (offered : List Text) :
    offered.foldl (fun r n => (r.register n).2) ∅ = ofOffered offered := by
  simp only [snd_register]
  rfl

theorem foldl_insert (offered : List Text) :
    offered.foldl (fun r n => (r.insert n).2) ∅ = ofOffered offered := by
  simp only [snd_insert]
  rfl

/-! ## Scenes and speakers -/

/-- **A roster holds first appearances.**  Names are offered one after the other to a roster of
scenes, and to one of speakers.  After any number of them, the list and the set on either roster
have the same names: those that were offered so far, each once, in the order in which they first
appeared.

A name is refused exactly if it was offered earlier.  To a scene this is the error that names it,
a speaker is just no new one, and in neither case is anything changed.  So a list only ever grows
at its end. -/
theorem holds_first_appearances (offered : List Text) :
    let scenes i := (offered.take i).foldl (fun r n => (r.register n).2) (∅ : Roster)
    let speakers i := (offered.take i).foldl (fun r n => (r.insert n).2) (∅ : Roster)
    (∀ i, ∀ r ∈ [scenes i, speakers i],
      (∀ n, n ∈ r.seen ↔ n ∈ r.names) ∧ (∀ n, n ∈ r.seen ↔ n ∈ offered.take i) ∧
      r.names.Nodup ∧ r.names = (offered.take i).eraseDups) ∧
    (∀ i n, offered[i]? = some n →
      let earlier := ∃ j < i, offered[j]? = some n
      (((scenes i).register n).1 = .error (.duplicateScene n) ↔ earlier) ∧
      (((scenes i).register n).1 = .ok () ↔ ¬ earlier) ∧
      (((speakers i).insert n).1 = false ↔ earlier) ∧
      (earlier → scenes (i + 1) = scenes i ∧ speakers (i + 1) = speakers i)) ∧
    ∀ i j, i ≤ j →
      (scenes i).names <+: (scenes j).names ∧ (speakers i).names <+: (speakers j).names := by
  intro scenes speakers
  have hscenes (i : Nat) : scenes i = ofOffered (offered.take i) := foldl_register _
  have hspeakers (i : Nat) : speakers i = ofOffered (offered.take i) := foldl_insert _
  refine ⟨?_, ?_, ?_⟩
  · intro i r hr
    rw [hscenes, hspeakers, List.mem_pair, or_self] at hr
    subst hr
    exact ⟨mem_seen _, fun n => (mem_seen _ n).trans mem_ofOffered, nodup _, names_ofOffered _⟩
  · intro i n hn earlier
    have hearlier : n ∈ offered.take i ↔ earlier := by
      simp only [List.mem_iff_getElem?, List.getElem?_take, Option.ite_none_right_eq_some, earlier]
    have hnext : offered.take (i + 1) = offered.take i ++ [n] := by
      rw [List.take_add_one, hn, Option.toList_some]
    simp only [hscenes, hspeakers, hnext, ← hearlier]
    refine ⟨?_, ?_, ?_, ?_⟩
    · exact fst_register_eq_error_iff.trans mem_ofOffered
    · exact fst_register_eq_ok_iff.trans (not_congr mem_ofOffered)
    · exact fst_insert_eq_false_iff.trans mem_ofOffered
    · intro h
      exact ⟨ofOffered_concat_of_mem h, ofOffered_concat_of_mem h⟩
  · intro i j hij
    have hfront : offered.take i <+: offered.take j := List.take_prefix_take_left hij
    rw [hscenes, hscenes, hspeakers, hspeakers]
    exact ⟨names_ofOffered_mono hfront, names_ofOffered_mono hfront⟩

/-- The third of three scenes has the name of the first. -/
theorem holds_first_appearances_story_one_again :
    let one := "Story_1".toList
    let offered := [one, "Story_2".toList, one]
    let scenes i := (offered.take i).foldl (fun r n => (r.register n).2) (∅ : Roster)
    offered[2]? = some one ∧ (∃ j < 2, offered[j]? = some one) ∧ 1 ≤ 3 ∧
      ((scenes 2).register one).1 = .error (.duplicateScene one) ∧ scenes 3 = scenes 2 ∧
      (scenes 1).names <+: (scenes 3).names := by
  intro one offered scenes
  have hthird : offered[2]? = some one := rfl
  have hearlier : ∃ j < 2, offered[j]? = some one := ⟨0, by decide, rfl⟩
  obtain ⟨-, hstep, hfront⟩ := holds_first_appearances offered
  obtain ⟨hrefused, -, -, hsame⟩ := hstep 2 one hthird
  exact ⟨hthird, hearlier, by decide, hrefused.mpr hearlier, (hsame hearlier).1,
    (hfront 1 3 (by decide)).1⟩

end Roster

end StoryScript
