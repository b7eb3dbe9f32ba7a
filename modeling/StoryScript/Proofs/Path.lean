/-
# `StoryScript.Proofs.Path` — parents and joins, component by component

`parent?` and `join` work on the text of a path, and what a path denotes is told by its
components.  The two fit together:

    components (root.join p)  =  components root ++ components p    for a relative p
    components p  =  components of the parent ++ one step

A slash parts the components of what stands in front of it from those of what follows
(`components_append_slash`), and the rest is where a path starts: what stands in front of
the first slash decides that.
-/
import Mathlib.Data.List.TakeWhile
import StoryScript.Proofs.Text.Lines

namespace StoryScript

/-- Whether a component is a name. -/
def Component.isEntry : Component → Bool
  | .entry _ => true
  | _ => false

namespace Path

/-! ## Slashes -/

/-- The components that a text has apart from what it starts with. -/
def moves (t : Text) : List Component := (segments t).filterMap step?

theorem components_eq (p : Path) : p.components = start p.text ++ moves p.text := rfl

theorem moves_append_slash (front back : Text) :
    moves (front ++ '/' :: back) = moves front ++ moves back := by
  rw [moves, segments, Text.splitAt_append_sep, List.filterMap_append]
  rfl

theorem start_append_slash (front back : Text) :
    start (front ++ '/' :: back) = if front = [] then [.root] else start front := by
  cases front with
  | nil => rfl
  | cons c rest =>
      obtain ⟨first, more, hsegments⟩ : ∃ first more, segments (c :: rest) = first :: more :=
        List.exists_cons_of_ne_nil (Text.splitAt_ne_nil '/' (c :: rest))
      have happend : segments (c :: rest ++ '/' :: back) = first :: more ++ segments back := by
        rw [← hsegments]
        exact Text.splitAt_append_sep '/' (c :: rest) back
      rw [if_neg (List.cons_ne_nil c rest), start, start, happend, hsegments]
      rfl

theorem components_append_slash {front : Text} (h : front ≠ []) (back : Text) :
    components ⟨front ++ '/' :: back⟩ = components ⟨front⟩ ++ moves back := by
  rw [components_eq, components_eq, start_append_slash, if_neg h, moves_append_slash,
    List.append_assoc]

theorem components_slash_append (front back : Text) :
    components ⟨front ++ '/' :: back⟩ = components ⟨front ++ ['/']⟩ ++ moves back := by
  have hnothing : moves [] = [] := rfl
  rw [components_eq, components_eq, start_append_slash, start_append_slash, moves_append_slash,
    moves_append_slash, hnothing, List.append_nil, List.append_assoc]

/-! ## Single segments -/

theorem segments_of_not_mem {t : Text} (h : '/' ∉ t) : segments t = [t] :=
  Text.splitAt_of_not_mem h

theorem exists_step?_eq_some {t : Text} (hne : t ≠ []) (hdot : t ≠ ['.']) :
    ∃ c, step? t = some c := by
  rw [step?, if_neg (not_or.mpr ⟨hne, hdot⟩)]
  split
  · exact ⟨_, rfl⟩
  · exact ⟨_, rfl⟩

theorem moves_of_step? {t : Text} {c : Component} (h : '/' ∉ t) (hstep : step? t = some c) :
    moves t = [c] := by
  rw [moves, segments_of_not_mem h, List.filterMap_cons_some hstep]
  rfl

theorem exists_moves_of_segment {t : Text} (h : '/' ∉ t) (hne : t ≠ []) (hdot : t ≠ ['.']) :
    ∃ c, moves t = [c] := by
  obtain ⟨c, hc⟩ := exists_step?_eq_some hne hdot
  exact ⟨c, moves_of_step? h hc⟩

theorem head?_ne_slash_of_not_mem {t : Text} (h : '/' ∉ t) : t.head? ≠ some '/' :=
  fun hhead => h (List.mem_of_mem_head? hhead)

theorem start_of_not_mem {t : Text} (h : '/' ∉ t) (hdot : t ≠ ['.']) : start t = [] := by
  rw [start, if_neg (head?_ne_slash_of_not_mem h), segments_of_not_mem h, if_neg]
  exact fun hhead => hdot (Option.some.inj hhead)

theorem components_of_name {t : Text} (h : '/' ∉ t) (hne : t ≠ []) (hdot : t ≠ ['.'])
    (hup : t ≠ ['.', '.']) : components ⟨t⟩ = [.entry t] := by
  rw [components_eq, start_of_not_mem h hdot, List.nil_append, moves, segments_of_not_mem h,
    List.filterMap_cons, step?, if_neg (not_or.mpr ⟨hne, hdot⟩), if_neg hup]
  rfl

theorem exists_components_of_segment {t : Text} (h : '/' ∉ t) (hne : t ≠ []) :
    ∃ c, components ⟨t⟩ = [c] ∧ .root ≠ c := by
  by_cases hdot : t = ['.']
  · rw [hdot]
    exact ⟨.here, rfl, nofun⟩
  · by_cases hup : t = ['.', '.']
    · rw [hup]
      exact ⟨.up, rfl, nofun⟩
    · exact ⟨_, components_of_name h hne hdot hup, nofun⟩

theorem eq_up_or_isEntry_of_mem_moves {t : Text} {c : Component} (h : c ∈ moves t) :
    c = .up ∨ c.isEntry = true := by
  obtain ⟨segment, -, hstep⟩ := List.mem_filterMap.mp h
  unfold step? at hstep
  split at hstep
  · cases hstep
  · split at hstep
    · cases hstep
      exact Or.inl rfl
    · cases hstep
      exact Or.inr rfl

theorem not_mem_moves (c : Component) (hup : c ≠ .up) (hentry : c.isEntry = false) (t : Text) :
    c ∉ moves t := by
  intro hmem
  rcases eq_up_or_isEntry_of_mem_moves hmem with hc | hc
  · exact hup hc
  · rw [hentry] at hc
    cases hc

theorem root_mem_components_iff {p : Path} : .root ∈ p.components ↔ p.text.head? = some '/' := by
  have hmoves : .root ∉ moves p.text := not_mem_moves .root nofun rfl p.text
  rw [components_eq, List.mem_append, or_iff_left hmoves, start]
  split
  · rename_i habsolute
    exact iff_of_true List.mem_cons_self habsolute
  · rename_i hrelative
    refine iff_of_false ?_ hrelative
    split
    · exact fun hmem => nomatch List.mem_singleton.mp hmem
    · exact List.not_mem_nil

/-! ## Plain paths -/

/-- A relative path that goes down by names, without any dots. -/
def IsPlain (p : Path) : Prop := ∀ c ∈ p.components, c.isEntry = true

instance : DecidablePred IsPlain :=
  fun p => inferInstanceAs (Decidable (∀ c ∈ p.components, c.isEntry = true))

theorem IsPlain.start_eq_nil {p : Path} (h : p.IsPlain) : start p.text = [] := by
  have hstart : ∀ c ∈ start p.text, c.isEntry = true := by
    intro c hc
    exact h c (List.mem_append_left _ hc)
  unfold start at hstart ⊢
  split at hstart
  · cases hstart .root List.mem_cons_self
  · split at hstart
    · cases hstart .here List.mem_cons_self
    · rename_i habsolute hhere
      rw [if_neg habsolute, if_neg hhere]

theorem exists_names_of_isEntry {cs : List Component} (h : ∀ c ∈ cs, c.isEntry = true) :
    ∃ names : List Text, cs = names.map .entry := by
  induction cs with
  | nil => exact ⟨[], rfl⟩
  | cons c rest ih =>
      obtain ⟨names, rfl⟩ := ih fun c hc => h c (List.mem_cons_of_mem _ hc)
      cases c with
      | entry name => exact ⟨name :: names, rfl⟩
      | _ => cases h _ List.mem_cons_self

theorem isEntry_of_mem_tail {p : Path} (h : .up ∉ p.components) :
    ∀ c ∈ p.components.tail, c.isEntry = true := by
  intro c hc
  have hmem : c ∈ moves p.text := by
    rw [components_eq] at hc
    unfold start at hc
    split at hc
    · exact hc
    · split at hc
      · exact hc
      · exact List.mem_of_mem_tail hc
  refine (eq_up_or_isEntry_of_mem_moves hmem).resolve_left ?_
  rintro rfl
  exact h (List.mem_of_mem_tail hc)

/-! ## Joins -/

/-- A path that starts neither at the root nor at a dot adds its components to those of the path
from which it is read. -/
theorem components_join {p : Path} (root : Path) (h : start p.text = []) :
    (root.join p).components = root.components ++ p.components := by
  have hrelative : p.text.head? ≠ some '/' := by
    intro habsolute
    rw [start, if_pos habsolute] at h
    cases h
  by_cases hroot : root.text = []
  · have hjoin : root.join p = p := if_pos (Or.inr hroot)
    have hnone : root.components = [] := by
      rw [components_eq, hroot]
      rfl
    rw [hjoin, hnone, List.nil_append]
  · have hpath : p.components = moves p.text := by rw [components_eq, h, List.nil_append]
    have hneither : ¬ (p.text.head? = some '/' ∨ root.text = []) := not_or.mpr ⟨hrelative, hroot⟩
    by_cases hslash : root.text.getLast? = some '/'
    · obtain ⟨front, hfront⟩ := List.getLast?_eq_some_iff.mp hslash
      have hjoin : root.join p = ⟨front ++ '/' :: p.text⟩ := by
        rw [join, if_neg hneither, if_pos hslash, hfront, List.append_assoc]
        rfl
      have hroot : components ⟨front ++ ['/']⟩ = root.components := by rw [← hfront]
      rw [hjoin, hpath, components_slash_append, hroot]
    · have hjoin : root.join p = ⟨root.text ++ '/' :: p.text⟩ := by
        rw [join, if_neg hneither, if_neg hslash]
      rw [hjoin, components_append_slash hroot, hpath]

/-! ## Parents -/

theorem components_reverse_slash {rest : Text} (h : rest ≠ []) :
    components ⟨('/' :: rest).reverse⟩ = components ⟨rest.reverse⟩ := by
  have hidle : moves [] = [] := rfl
  rw [List.reverse_cons, components_append_slash (List.reverse_ne_nil_iff.mpr h), hidle,
    List.append_nil]

theorem components_reverse_dot_slash {rest : Text} (h : rest ≠ []) :
    components ⟨('.' :: '/' :: rest).reverse⟩ = components ⟨rest.reverse⟩ := by
  have hidle : moves ['.'] = [] := rfl
  rw [List.reverse_cons, List.reverse_cons, List.append_assoc, List.singleton_append,
    components_append_slash (List.reverse_ne_nil_iff.mpr h), hidle, List.append_nil]

/-- Idle slashes and dots at the end of a path can be dropped, if anything is left. -/
theorem components_dropIdle {t : Text} (h : dropIdle t ≠ []) :
    components ⟨(dropIdle t).reverse⟩ = components ⟨t.reverse⟩ := by
  fun_induction dropIdle t with
  | case1 rest ih =>
      have hrest : rest ≠ [] := by
        rintro rfl
        exact h rfl
      rw [ih h, components_reverse_slash hrest]
  | case2 rest ih =>
      have hrest : rest ≠ [] := by
        rintro rfl
        exact h rfl
      rw [ih h, components_reverse_dot_slash hrest]
  | case3 t => rfl

theorem components_of_dropIdle_eq_nil {t : Text} (h : dropIdle t = []) (ht : t ≠ []) :
    components ⟨t.reverse⟩ = [.root] := by
  fun_induction dropIdle t with
  | case1 rest ih =>
      by_cases hrest : rest = []
      · rw [hrest]
        rfl
      · rw [components_reverse_slash hrest, ih h hrest]
  | case2 rest ih =>
      by_cases hrest : rest = []
      · rw [hrest]
        rfl
      · rw [components_reverse_dot_slash hrest, ih h hrest]
  | case3 t => exact absurd h ht

theorem dropIdle_ne_dot_slash (t rest : Text) : dropIdle t ≠ '.' :: '/' :: rest := by
  fun_induction dropIdle t with
  | case1 _ ih => exact ih
  | case2 _ ih => exact ih
  | case3 t _ hdot => exact hdot rest

theorem exists_slash_of_dropWhile_ne_nil {t : Text} (h : t.dropWhile (· != '/') ≠ []) :
    ∃ rest, t.dropWhile (· != '/') = '/' :: rest ∧
      t = t.takeWhile (· != '/') ++ '/' :: rest := by
  have hhead := List.head?_dropWhile_not (· != '/') t
  cases hd : t.dropWhile (· != '/') with
  | nil => exact absurd hd h
  | cons c rest =>
      rw [hd, List.head?_cons] at hhead
      rw [bne_eq_false_iff_eq.mp hhead] at hd ⊢
      refine ⟨rest, rfl, ?_⟩
      rw [← hd, List.takeWhile_append_dropWhile]

theorem not_mem_takeWhile_slash (t : Text) : '/' ∉ t.takeWhile (· != '/') :=
  fun h => absurd rfl (bne_iff_ne.mp (List.mem_takeWhile_imp (p := (· != '/')) h))

/-- A path that ends in a step, the text read backwards: the step is all there is, or there is
a slash in front of it. -/
theorem components_reverse_cases {last : Text} (hne : last ≠ []) (hslash : last.head? ≠ some '/')
    (hdot : ∀ rest, last ≠ '.' :: '/' :: rest) :
    (last.dropWhile (· != '/') = [] ∧ ∃ c, components ⟨last.reverse⟩ = [c] ∧ .root ≠ c) ∨
      ∃ front c, last.dropWhile (· != '/') = '/' :: front ∧
        components ⟨last.reverse⟩ = components ⟨('/' :: front).reverse⟩ ++ [c] := by
  by_cases hone : last.dropWhile (· != '/') = []
  · have hsegment : '/' ∉ last := fun hc =>
      absurd rfl (bne_iff_ne.mp (List.dropWhile_eq_nil_iff.mp hone _ hc))
    exact Or.inl ⟨hone, exists_components_of_segment (mt List.mem_reverse.mp hsegment)
      (List.reverse_ne_nil_iff.mpr hne)⟩
  · obtain ⟨front, hdrop, hsplit⟩ := exists_slash_of_dropWhile_ne_nil hone
    have hsegment := not_mem_takeWhile_slash last
    generalize last.takeWhile (· != '/') = name at hsegment hsplit
    have hname : name.reverse ≠ [] := by
      rw [List.reverse_ne_nil_iff]
      rintro rfl
      rw [hsplit] at hslash
      exact hslash rfl
    have hidle : name.reverse ≠ ['.'] := by
      intro hidle
      rw [List.reverse_eq_iff.mp hidle] at hsplit
      exact hdot front hsplit
    obtain ⟨c, hc⟩ := exists_moves_of_segment (mt List.mem_reverse.mp hsegment) hname hidle
    refine Or.inr ⟨front, c, hdrop, ?_⟩
    rw [hsplit, List.reverse_append, List.reverse_cons, List.append_assoc, List.singleton_append,
      components_slash_append, hc]

/-- **A path is its parent and one step more.** -/
theorem exists_components_eq_of_parent? {p q : Path} (h : p.parent? = some q) :
    ∃ c, p.components = q.components ++ [c] := by
  unfold parent? at h
  split at h
  · cases h
  · rename_i hlast
    have hcomponents : components ⟨(dropIdle p.text.reverse).reverse⟩ = p.components := by
      rw [components_dropIdle hlast, List.reverse_reverse]
    rcases components_reverse_cases hlast (head?_dropIdle_ne _) (dropIdle_ne_dot_slash _) with
      ⟨hone, c, hc, hroot⟩ | ⟨front, c, hfront, hc⟩
    · have hrelative : ¬ p.text.head? = some '/' := by
        rw [← root_mem_components_iff, ← hcomponents, hc, List.mem_singleton]
        exact hroot
      rw [hone] at h
      dsimp only [dropIdle] at h
      rw [if_neg hrelative] at h
      cases h
      exact ⟨c, hcomponents.symm.trans hc⟩
    · rw [hcomponents] at hc
      rw [hfront] at h
      split at h
      · rename_i hall
        have hroot := components_of_dropIdle_eq_nil hall (List.cons_ne_nil _ _)
        have habsolute : p.text.head? = some '/' := by
          rw [← root_mem_components_iff, hc, hroot]
          exact List.mem_cons_self
        rw [if_pos habsolute] at h
        cases h
        rw [hc, hroot]
        exact ⟨c, rfl⟩
      · rename_i hrest
        cases h
        rw [components_dropIdle hrest, hc]
        exact ⟨c, rfl⟩

theorem components_parent?_prefix {p q : Path} (h : p.parent? = some q) :
    q.components <+: p.components := by
  obtain ⟨c, hc⟩ := exists_components_eq_of_parent? h
  exact ⟨[c], hc.symm⟩

theorem exists_parent?_of_components {p : Path} {front : List Component} {name : Text}
    (h : p.components = front ++ [.entry name]) :
    ∃ q, p.parent? = some q ∧ q.components = front := by
  cases hq : p.parent? with
  | some q =>
      obtain ⟨c, hc⟩ := exists_components_eq_of_parent? hq
      exact ⟨q, rfl, (List.append_inj_left' (h.symm.trans hc) rfl).symm⟩
  | none =>
      unfold parent? at hq
      split at hq
      · rename_i hidle
        by_cases htext : p.text = []
        · rw [components_eq, htext] at h
          exact absurd h.symm (List.append_ne_nil_of_right_ne_nil front (List.cons_ne_nil _ _))
        · have hroot := components_of_dropIdle_eq_nil hidle (List.reverse_ne_nil_iff.mpr htext)
          rw [List.reverse_reverse] at hroot
          have hlast := List.append_inj_right' (h.symm.trans hroot : _ = [] ++ [Component.root]) rfl
          cases hlast
      · split at hq <;> cases hq

theorem exists_dropIdle (t : Text) : ∃ w, '/' :: t = w ++ '/' :: dropIdle t := by
  fun_induction dropIdle t with
  | case1 rest ih =>
      obtain ⟨w, hw⟩ := ih
      exact ⟨'/' :: w, congrArg ('/' :: ·) hw⟩
  | case2 rest ih =>
      obtain ⟨w, hw⟩ := ih
      exact ⟨'/' :: '.' :: w, congrArg ('/' :: '.' :: ·) hw⟩
  | case3 t => exact ⟨[], rfl⟩

theorem dropIdle_suffix (t : Text) : dropIdle t <:+ t := by
  obtain ⟨w, hw⟩ := exists_dropIdle t
  cases w with
  | nil => exact ⟨[], (List.cons.inj hw).2.symm⟩
  | cons _ w => exact ⟨w ++ ['/'], by rw [List.append_assoc]; exact (List.cons.inj hw).2.symm⟩

/-- A parent is spelled as the path is, up to a slash. -/
theorem text_of_parent? {p q : Path} (h : p.parent? = some q) :
    q.text = [] ∨ (q.text = ['/'] ∧ p.text.head? = some '/') ∨
      ∃ more, p.text = q.text ++ '/' :: more := by
  unfold parent? at h
  split at h
  · cases h
  · rename_i hlast
    split at h
    · cases h
      by_cases habsolute : p.text.head? = some '/'
      · exact Or.inr (Or.inl ⟨if_pos habsolute, habsolute⟩)
      · exact Or.inl (if_neg habsolute)
    · rename_i hrest
      cases h
      have hslash : (dropIdle p.text.reverse).dropWhile (· != '/') ≠ [] := fun hnil =>
        hrest (by rw [hnil]; rfl)
      obtain ⟨front, hfront, hsplit⟩ := exists_slash_of_dropWhile_ne_nil hslash
      have hkept : dropIdle ('/' :: front) = dropIdle front := rfl
      obtain ⟨idle, hidle⟩ := dropIdle_suffix p.text.reverse
      obtain ⟨w, hw⟩ := exists_dropIdle front
      rw [hfront, hkept]
      generalize (dropIdle p.text.reverse).takeWhile (· != '/') = name at hsplit
      refine Or.inr (Or.inr ⟨(idle ++ (name ++ w)).reverse, ?_⟩)
      calc p.text = (idle ++ (name ++ (w ++ '/' :: dropIdle front))).reverse := by
            rw [← hw, ← hsplit, hidle, List.reverse_reverse]
        _ = (dropIdle front).reverse ++ '/' :: (idle ++ (name ++ w)).reverse := by
            simp only [List.reverse_append, List.reverse_cons, List.append_assoc, List.cons_append,
              List.nil_append]

end Path

end StoryScript
