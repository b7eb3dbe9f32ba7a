/-
# `StoryScript.Proofs.Path.Spelling` — one place, many spellings

Paths are compared by their components, so a place can be spelled in many ways.  What may be
taken out of a text without its leaving the place is a slash behind a slash, a dot between
slashes or at the end, and a slash at the end:

    Scenes//./Day.cs/   ⟶   Scenes/./Day.cs/   ⟶   Scenes/Day.cs/   ⟶   Scenes/Day.cs

A text that has nothing of the kind left is the components put together again, and so two
paths are one place exactly if their texts are joined by such steps
(`Path.components_eq_iff_alike`).

What no step touches is told by the segments: whether the path starts at the root, whether it
starts at a dot, and the names and the double dots on it (`Path.components_eq_iff_names`).
-/
import Mathlib.Logic.Relation
import StoryScript.Proofs.Path

namespace StoryScript

/-- How a component is spelled on its own. -/
def Component.text : Component → Text
  | .root => ['/']
  | .here => ['.']
  | .up => ['.', '.']
  | .entry name => name

namespace Path

/-! ## What counts for nothing -/

/-- The second text is the first one without a slash or a dot that counts for nothing. -/
inductive Idle : Text → Text → Prop where
  /-- Of two slashes one is enough. -/
  | slash (front back : Text) : Idle (front ++ '/' :: '/' :: back) (front ++ '/' :: back)
  /-- A dot behind a slash says nothing, if it is all that there is up to the next one. -/
  | dot (front : Text) {back : Text} (h : back = [] ∨ back.head? = some '/') :
    Idle (front ++ '/' :: '.' :: back) (front ++ '/' :: back)
  /-- A slash at the end counts for nothing, except for the root. -/
  | last {t : Text} (h : t ≠ []) : Idle (t ++ ['/']) t

/-- The texts are spellings of each other: idle slashes and dots lead from one to the other. -/
abbrev Alike (t u : Text) : Prop := Relation.EqvGen Idle t u

theorem moves_slash (back : Text) : moves ('/' :: back) = moves back :=
  moves_append_slash [] back

theorem moves_dot {back : Text} (h : back = [] ∨ back.head? = some '/') :
    moves ('.' :: back) = moves back := by
  rcases h with rfl | hslash
  · rfl
  · obtain ⟨rest, rfl⟩ := List.head?_eq_some_iff.mp hslash
    rw [moves_slash]
    exact moves_append_slash ['.'] rest

/-- Leaving out what is idle does not lead to another place. -/
theorem Idle.components_eq {t u : Text} (h : Idle t u) : components ⟨t⟩ = components ⟨u⟩ := by
  cases h with
  | slash front back =>
      rw [components_slash_append front, components_slash_append front back, moves_slash]
  | @dot front back h =>
      rw [components_slash_append front, components_slash_append front back, moves_dot h]
  | last h =>
      have hnothing : moves [] = [] := rfl
      rw [components_append_slash h, hnothing, List.append_nil]

theorem Idle.ne_nil {t u : Text} (h : Idle t u) : u ≠ [] := by
  cases h with
  | slash front back => exact List.append_ne_nil_of_right_ne_nil front (List.cons_ne_nil _ _)
  | dot front _ => exact List.append_ne_nil_of_right_ne_nil front (List.cons_ne_nil _ _)
  | last h => exact h

theorem ne_nil_of_reflTransGen {t u : Text} (h : Relation.ReflTransGen Idle t u) (ht : t ≠ []) :
    u ≠ [] := by
  cases h with
  | refl => exact ht
  | tail _ hstep => exact hstep.ne_nil

theorem Idle.length_lt {t u : Text} (h : Idle t u) : u.length < t.length := by
  cases h with
  | slash front back =>
      simp only [List.length_append, List.length_cons]
      omega
  | dot front _ =>
      simp only [List.length_append, List.length_cons]
      omega
  | last _ =>
      rw [List.length_append]
      exact Nat.lt_succ_self _

/-- What is idle at the end of a text is idle in front of a slash as well. -/
theorem Idle.append_slash {t u : Text} (h : Idle t u) (x : Text) :
    Idle (t ++ '/' :: x) (u ++ '/' :: x) := by
  cases h with
  | slash front back =>
      simp only [List.append_assoc, List.cons_append]
      exact .slash front _
  | @dot front back hback =>
      simp only [List.append_assoc, List.cons_append]
      refine .dot front (Or.inr ?_)
      rcases hback with rfl | hslash
      · rfl
      · obtain ⟨rest, rfl⟩ := List.head?_eq_some_iff.mp hslash
        rfl
  | last _ =>
      rw [List.append_assoc]
      exact .slash u x

/-! ## The shortest spelling -/

theorem exists_last_slash {t : Text} (h : '/' ∈ t) :
    ∃ front last, t = front ++ '/' :: last ∧ '/' ∉ last := by
  obtain ⟨last, front, hsplit, hlast⟩ := List.eq_append_cons_of_mem (List.mem_reverse.mpr h)
  refine ⟨front.reverse, last.reverse, ?_, mt List.mem_reverse.mp hlast⟩
  rw [List.reverse_eq_iff.mp hsplit, List.reverse_append, List.reverse_cons, List.append_assoc]
  rfl

/-- The components put together again. -/
def spelled (cs : List Component) : Path := cs.foldl (fun p c => p.join ⟨c.text⟩) ⟨[]⟩

theorem spelled_append_singleton (cs : List Component) (c : Component) :
    spelled (cs ++ [c]) = (spelled cs).join ⟨c.text⟩ := by
  rw [spelled, List.foldl_append]
  rfl

theorem spelled_singleton (c : Component) : spelled [c] = ⟨c.text⟩ := if_pos (Or.inr rfl)

theorem text_of_step? {segment : Text} {c : Component} (h : step? segment = some c) :
    c.text = segment := by
  unfold step? at h
  split at h
  · cases h
  · split at h
    · rename_i hup
      cases h
      exact hup.symm
    · cases h
      rfl

theorem text_spelled_of_not_mem {t : Text} (h : '/' ∉ t) :
    (spelled (components ⟨t⟩)).text = t := by
  by_cases hnil : t = []
  · rw [hnil]
    rfl
  · by_cases hdot : t = ['.']
    · rw [hdot]
      rfl
    · obtain ⟨c, hc⟩ := exists_step?_eq_some hnil hdot
      rw [components_eq, start_of_not_mem h hdot, List.nil_append, moves_of_step? h hc,
        spelled_singleton]
      exact text_of_step? hc

theorem join_root {last : Text} (h : '/' ∉ last) : join ⟨['/']⟩ ⟨last⟩ = ⟨'/' :: last⟩ := by
  rw [join, if_neg (not_or.mpr ⟨head?_ne_slash_of_not_mem h, List.cons_ne_nil _ _⟩)]
  rfl

/-- If `front` can be shortened to `u`, then `front`, a slash and a last part can be shortened to
that part read from `u`. -/
theorem reflTransGen_join {front u last : Text} (h : Relation.ReflTransGen Idle front u)
    (hu : u ≠ []) (hlast : '/' ∉ last) :
    Relation.ReflTransGen Idle (front ++ '/' :: last) (join ⟨u⟩ ⟨last⟩).text := by
  have hbehind : Relation.ReflTransGen Idle (front ++ '/' :: last) (u ++ '/' :: last) :=
    h.lift (· ++ '/' :: last) fun _ _ hstep => hstep.append_slash last
  have hneither : ¬ (last.head? = some '/' ∨ u = []) :=
    not_or.mpr ⟨head?_ne_slash_of_not_mem hlast, hu⟩
  rw [join, if_neg hneither]
  split
  · rename_i hslash
    obtain ⟨v, rfl⟩ := List.getLast?_eq_some_iff.mp hslash
    rw [List.append_assoc] at hbehind ⊢
    exact hbehind.tail (.slash v last)
  · exact hbehind

/-- **Every path can be shortened to its components put together.**  By the last slash: what
follows it is idle and goes, or it is the last step. -/
theorem reflTransGen_spelled (t : Text) :
    Relation.ReflTransGen Idle t (spelled (components ⟨t⟩)).text := by
  by_cases hslash : '/' ∈ t
  · obtain ⟨front, last, rfl, hlast⟩ := exists_last_slash hslash
    by_cases hidle : last = [] ∨ last = ['.']
    · by_cases hroot : front = [] ∧ last = []
      · obtain ⟨rfl, rfl⟩ := hroot
        exact .refl
      · obtain ⟨u, hstep⟩ : ∃ u, Idle (front ++ '/' :: last) u := by
          rcases hidle with rfl | rfl
          · exact ⟨front, .last fun hfront => hroot ⟨hfront, rfl⟩⟩
          · exact ⟨front ++ ['/'], .dot front (Or.inl rfl)⟩
        rw [hstep.components_eq]
        have hshorter := hstep.length_lt
        exact (reflTransGen_spelled u).head hstep
    · obtain ⟨hnil, hdot⟩ := not_or.mp hidle
      obtain ⟨c, hc⟩ := exists_step?_eq_some hnil hdot
      have hmoves : moves last = [c] := moves_of_step? hlast hc
      by_cases hroot : front = []
      · rw [hroot, components_slash_append, hmoves, spelled_append_singleton, text_of_step? hc]
        show Relation.ReflTransGen Idle ('/' :: last) (join ⟨['/']⟩ ⟨last⟩).text
        rw [join_root hlast]
      · have hshorter : front.length < (front ++ '/' :: last).length := by
          rw [List.length_append]
          exact Nat.lt_add_of_pos_right (Nat.succ_pos _)
        have hfront := reflTransGen_spelled front
        rw [components_append_slash hroot, hmoves, spelled_append_singleton, text_of_step? hc]
        exact reflTransGen_join hfront (ne_nil_of_reflTransGen hfront hroot) hlast
  · rw [text_spelled_of_not_mem hslash]
termination_by t.length

/-- **Two paths are one place exactly if idle slashes and dots are all that keeps them apart.** -/
theorem components_eq_iff_alike {p q : Path} :
    p.components = q.components ↔ Alike p.text q.text := by
  constructor
  · intro hsame
    have hp : Alike p.text (spelled p.components).text :=
      Relation.EqvGen.reflTransGen_le_eqvGen _ _ _ (reflTransGen_spelled p.text)
    have hq : Alike q.text (spelled q.components).text :=
      Relation.EqvGen.reflTransGen_le_eqvGen _ _ _ (reflTransGen_spelled q.text)
    rw [← hsame] at hq
    exact hp.trans _ _ _ (hq.symm _ _)
  · suffices h : ∀ t u, Alike t u → components ⟨t⟩ = components ⟨u⟩ from h p.text q.text
    intro t u halike
    induction halike with
    | rel t u hstep => exact hstep.components_eq
    | refl t => rfl
    | symm t u _ ih => exact ih.symm
    | trans t u v _ _ first second => exact first.trans second

/-! ## What counts -/

/-- The segments of a path that are more than nothing or a dot. -/
def names (t : Text) : List Text := (segments t).filter fun segment =>
  ¬ (segment = [] ∨ segment = ['.'])

theorem here_mem_components_iff {p : Path} :
    .here ∈ p.components ↔ (segments p.text).head? = some ['.'] := by
  have hmoves : .here ∉ moves p.text := not_mem_moves .here (by decide) rfl p.text
  rw [components_eq, List.mem_append, or_iff_left hmoves, start]
  split
  · rename_i habsolute
    obtain ⟨rest, hrest⟩ := List.head?_eq_some_iff.mp habsolute
    refine iff_of_false ?_ ?_
    · intro hmem
      cases List.mem_singleton.mp hmem
    · intro hhere
      rw [hrest] at hhere
      cases hhere
  · split
    · rename_i hhere
      exact iff_of_true List.mem_cons_self hhere
    · rename_i hhere
      exact iff_of_false List.not_mem_nil hhere

theorem map_text_moves (t : Text) : (moves t).map Component.text = names t := by
  rw [moves, names]
  induction segments t with
  | nil => rfl
  | cons segment rest ih =>
      by_cases hidle : segment = [] ∨ segment = ['.']
      · have hstep : step? segment = none := if_pos hidle
        rw [List.filterMap_cons_none hstep, ih, List.filter_cons_of_neg]
        exact fun hnamed => of_decide_eq_true hnamed hidle
      · obtain ⟨c, hc⟩ := exists_step?_eq_some (not_or.mp hidle).1 (not_or.mp hidle).2
        rw [List.filterMap_cons_some hc, List.map_cons, text_of_step? hc, ih,
          List.filter_cons_of_pos]
        exact decide_eq_true hidle

theorem moves_eq_filterMap_names (t : Text) : moves t = (names t).filterMap step? := by
  rw [moves, names, List.filterMap_filter]
  congr 1
  funext segment
  split
  · rfl
  · rename_i hidle
    exact if_pos (Decidable.not_not.mp fun h => hidle (decide_eq_true h))

/-- **Two paths are one place exactly if they start alike and name the same on the way**: both
at the root or neither, both at a dot or neither, and then the same names and double dots. -/
theorem components_eq_iff_names {p q : Path} : p.components = q.components ↔
    (p.text.head? = some '/' ↔ q.text.head? = some '/') ∧
    ((segments p.text).head? = some ['.'] ↔ (segments q.text).head? = some ['.']) ∧
    names p.text = names q.text := by
  constructor
  · intro hsame
    have hroot : p.text.head? = some '/' ↔ q.text.head? = some '/' := by
      rw [← root_mem_components_iff, hsame, root_mem_components_iff]
    have hhere : (segments p.text).head? = some ['.'] ↔ (segments q.text).head? = some ['.'] := by
      rw [← here_mem_components_iff, hsame, here_mem_components_iff]
    have hstart : start p.text = start q.text := by
      simp only [start, hroot, hhere]
    rw [components_eq, components_eq, hstart] at hsame
    refine ⟨hroot, hhere, ?_⟩
    rw [← map_text_moves, List.append_cancel_left hsame, map_text_moves]
  · rintro ⟨hroot, hhere, hnames⟩
    have hstart : start p.text = start q.text := by
      simp only [start, hroot, hhere]
    rw [components_eq, components_eq, hstart, moves_eq_filterMap_names, hnames,
      ← moves_eq_filterMap_names]

end Path

end StoryScript
