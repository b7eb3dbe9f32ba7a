/-
# `StoryScript.Proofs.Disk.Tree` — directories on the way to a place

In a tree everything is in a directory, and so is the place where relative paths start.
Making directories and writing files keep it so, whatever their paths.

A walk by names through a tree meets a directory, nothing or a file at every step.  If it
meets no file it arrives exactly if there is a directory at its end, and otherwise what it
misses is a name (`walk_of_isClear`).  Missing names are what `makeDirs` makes, from the top
down, so it succeeds exactly if there is no file on the way (`makeDirs_eq_ok_iff`).
-/
import StoryScript.Proofs.Disk.Write

namespace StoryScript

namespace Disk

variable {d d' : Disk} {p q target : Path} {place above : Place} {names : List Text}
  {last : Text} {e : Entry} {bytes : Bytes}

/-! ## Trees -/

/-- Everything is in a directory, the working directory is one. -/
structure IsTree (d : Disk) : Prop where
  workDir : d.lookup d.workDir = some .dir
  parent : ∀ {place name e}, d.lookup (place ++ [name]) = some e → d.lookup place = some .dir

namespace IsTree

theorem of_entries (hwork : d.lookup d.workDir = some .dir)
    (h : ∀ entry ∈ d.entries, d.lookup entry.1.dropLast = some .dir) : d.IsTree := by
  refine ⟨hwork, fun {place name e} hlookup => ?_⟩
  rw [lookup, if_neg (List.concat_ne_nil _ _), Option.map_eq_some_iff] at hlookup
  obtain ⟨entry, hentry, -⟩ := hlookup
  have hplace : entry.1 = place ++ [name] := by simpa using List.find?_some hentry
  have hparent := h entry (List.mem_of_find?_eq_some hentry)
  rwa [hplace, List.dropLast_concat] at hparent

/-- In a tree whatever is above something is a directory. -/
theorem lookup_above (h : d.IsTree) {rest : List Text} (hrest : rest ≠ [])
    (hlookup : d.lookup (place ++ rest) = some e) : d.lookup place = some .dir := by
  induction rest generalizing place with
  | nil => exact absurd rfl hrest
  | cons name more ih =>
      by_cases hmore : more = []
      · rw [hmore] at hlookup
        exact h.parent hlookup
      · have hbelow : d.lookup (place ++ [name] ++ more) = some e := by
          rwa [List.append_assoc]
        exact h.parent (ih hmore hbelow)

theorem lookup_base (h : d.IsTree) (p : Path) : d.lookup (d.base p) = some .dir := by
  unfold base
  split
  · rfl
  · exact h.workDir

theorem lookup_placeOf (h : d.IsTree) (hdir : p.text = [] ∨ d.isDir p = true) :
    d.lookup (d.placeOf p) = some .dir := by
  rcases hdir with hnil | hdir
  · obtain ⟨text⟩ := p
    obtain rfl : text = [] := hnil
    exact h.workDir
  · obtain ⟨place, hlocate⟩ := isDir_iff.mp hdir
    rw [← eq_placeOf_of_locate hlocate]
    exact lookup_of_locate hlocate

theorem put (h : d.IsTree) (hdir : d.lookup place = some .dir)
    (hfree : d.lookup (place ++ [last]) ≠ some .dir) : (d.put (place ++ [last]) e).IsTree := by
  have hne := List.concat_ne_nil last place
  have hkept (other : Place) (hother : d.lookup other = some .dir) :
      (d.put (place ++ [last]) e).lookup other = some .dir := by
    rw [lookup_put_of_ne hne, hother]
    rintro rfl
    exact hfree hother
  refine ⟨hkept _ h.workDir, fun {other name e'} hlookup => hkept other ?_⟩
  by_cases hother : other ++ [name] = place ++ [last]
  · rwa [(List.append_inj' hother rfl).1]
  · rw [lookup_put_of_ne hne hother] at hlookup
    exact h.parent hlookup

theorem makeDir (h : d.IsTree) (hmade : d.makeDir p = .ok d') : d'.IsTree := by
  unfold Disk.makeDir at hmade
  split at hmade
  · cases hmade
  · cases hmade
  · rename_i place last hholder
    split at hmade
    · cases hmade
    · split at hmade
      · cases hmade
      · split at hmade
        · cases hmade
        · rename_i hnone
          cases hmade
          obtain ⟨-, -, -, hdir⟩ := holder_eq_ok_iff.mp hholder
          refine h.put hdir ?_
          rw [Option.not_isSome_iff_eq_none.mp hnone]
          nofun

theorem makeDirs (h : d.IsTree) (p : Path) : (d.makeDirs p).2.IsTree := by
  fun_induction Disk.makeDirs d p with
  | case1 => exact h
  | case2 p _ made hmade => exact h.makeDir hmade
  | case3 => exact h
  | case4 p _ _ above habove _ _ made habovemade ih =>
      rwa [habovemade] at ih
  | case5 p _ _ above habove _ between hbetween made hlast ih =>
      rw [hbetween] at ih
      exact ih.makeDir hlast
  | case6 p _ _ above habove _ between hbetween _ _ _ ih =>
      rwa [hbetween] at ih
  | case7 p _ _ above habove _ between hbetween _ _ _ ih =>
      rwa [hbetween] at ih
  | case8 => exact h

end IsTree

/-! ## Paths that are made of names -/

/-- The steps of a path are names, none of them too long. -/
structure HasNames (p : Path) : Prop where
  noNul : '\x00' ∉ p.text
  isName : ∀ step ∈ Path.segments p.text, step ≠ [] →
    isDots step = false ∧ Text.utf8Length step ≤ maxName

/-- The path is taken as it is, and its steps are these names. -/
structure GoesBy (p : Path) (names : List Text) : Prop where
  steps : steps p = .ok names
  isName : ∀ name ∈ names, isDots name = false ∧ Text.utf8Length name ≤ maxName

theorem HasNames.goesBy (h : HasNames p) (hne : p.text ≠ [])
    (hshort : Text.utf8Length p.text ≤ maxPath) :
    GoesBy p ((Path.segments p.text).filter (· ≠ [])) := by
  refine ⟨?_, fun name hname => ?_⟩
  · rw [Disk.steps, if_neg h.noNul, if_neg hne, if_neg (Nat.not_lt.mpr hshort)]
  · obtain ⟨hstep, hnil⟩ := List.mem_filter.mp hname
    exact h.isName name hstep (of_decide_eq_true hnil)

theorem HasNames.of_append {front more : Text} (h : HasNames ⟨front ++ '/' :: more⟩) :
    HasNames ⟨front⟩ := by
  refine ⟨fun hnul => h.noNul (List.mem_append_left _ hnul), fun step hstep => h.isName step ?_⟩
  rw [Path.segments, Text.splitAt_append_sep]
  exact List.mem_append_left _ hstep

theorem HasNames.append {front back : Text} (h : HasNames ⟨front⟩) (h' : HasNames ⟨back⟩) :
    HasNames ⟨front ++ '/' :: back⟩ := by
  refine ⟨?_, fun step hstep => ?_⟩
  · intro hnul
    rcases List.mem_append.mp hnul with hnul | hnul
    · exact h.noNul hnul
    · exact h'.noNul ((List.mem_cons.mp hnul).resolve_left (by decide))
  · rw [Path.segments, Text.splitAt_append_sep] at hstep
    exact (List.mem_append.mp hstep).elim (h.isName step) (h'.isName step)

theorem HasNames.join (h : HasNames p) (h' : HasNames q) : HasNames (p.join q) := by
  unfold Path.join
  split
  · exact h'
  · split
    · rename_i hslash
      obtain ⟨front, hfront⟩ := List.getLast?_eq_some_iff.mp hslash
      have htext : p = ⟨front ++ '/' :: []⟩ := by rw [← hfront]
      rw [hfront, List.append_assoc]
      exact (htext ▸ h).of_append.append h'
    · exact h.append h'

theorem filterMap_step?_of_names (h : ∀ name ∈ names, name ≠ [] ∧ isDots name = false) :
    names.filterMap Path.step? = names.map .entry := by
  induction names with
  | nil => rfl
  | cons name rest ih =>
      obtain ⟨⟨hne, hdots⟩, hrest⟩ := List.forall_mem_cons.mp h
      rw [List.filterMap_cons_some (step?_of_not_dots hne hdots), ih hrest, List.map_cons]

theorem GoesBy.moves (h : GoesBy p names) : Path.moves p.text = names.map .entry := by
  rw [← filterMap_step?_steps h.steps]
  exact filterMap_step?_of_names fun name hname =>
    ⟨ne_nil_of_mem_steps h.steps name hname, (h.isName name hname).1⟩

/-- A path that goes by names denotes the place to which they lead down from where it starts. -/
theorem GoesBy.placeOf (h : GoesBy p names) (d : Disk) : d.placeOf p = d.base p ++ names := by
  rw [placeOf_eq, h.moves, foldl_move_entries]

theorem HasNames.start (h : HasNames p) :
    Path.start p.text = if p.text.head? = some '/' then [.root] else [] := by
  have hhere : (Path.segments p.text).head? ≠ some ['.'] := by
    intro hhere
    cases (h.isName ['.'] (List.mem_of_head? hhere) (List.cons_ne_nil _ _)).1
  rw [Path.start, if_neg hhere]

theorem GoesBy.text (h : GoesBy p names) :
    HasNames p ∧ p.text ≠ [] ∧ Text.utf8Length p.text ≤ maxPath := by
  have hsteps := h.steps
  unfold Disk.steps at hsteps
  split at hsteps
  · cases hsteps
  · rename_i hnul
    split at hsteps
    · cases hsteps
    · rename_i hne
      split at hsteps
      · cases hsteps
      · rename_i hshort
        cases hsteps
        refine ⟨⟨hnul, fun step hstep hnil => h.isName step ?_⟩, hne, Nat.le_of_not_lt hshort⟩
        exact List.mem_filter.mpr ⟨hstep, decide_eq_true hnil⟩

theorem GoesBy.up_not_mem (h : GoesBy p names) : .up ∉ p.components := by
  rw [Path.components_eq, h.moves, h.text.1.start]
  intro hup
  rcases List.mem_append.mp hup with hup | hup
  · split at hup
    · cases List.mem_singleton.mp hup
    · cases hup
  · obtain ⟨name, -, hname⟩ := List.mem_map.mp hup
    cases hname

theorem HasNames.parent {above : Path} (h : HasNames p) (habove : p.parent? = some above)
    (hne : above.text ≠ []) :
    HasNames above ∧ Path.start above.text = Path.start p.text ∧
      Text.utf8Length above.text ≤ Text.utf8Length p.text := by
  have hlonger : Text.utf8Length above.text ≤ Text.utf8Length p.text ∧
      above.text.head? = p.text.head? ∧ HasNames above := by
    obtain ⟨text⟩ := above
    obtain ⟨whole⟩ := p
    rcases Path.text_of_parent? habove with hnil | ⟨rfl, hslash⟩ | ⟨more, rfl⟩
    · exact absurd hnil hne
    · obtain ⟨rest, rfl⟩ := List.head?_eq_some_iff.mp hslash
      refine ⟨?_, rfl, ⟨by decide, by decide⟩⟩
      rw [Text.utf8Length_cons '/' rest]
      exact Nat.le_add_right _ _
    · obtain ⟨c, rest, rfl⟩ := List.exists_cons_of_ne_nil hne
      refine ⟨?_, rfl, h.of_append⟩
      rw [Text.utf8Length_append]
      exact Nat.le_add_right _ _
  obtain ⟨hlength, hhead, hnames⟩ := hlonger
  exact ⟨hnames, by rw [h.start, hnames.start, hhead], hlength⟩

theorem GoesBy.parent (h : GoesBy p (names ++ [last])) :
    ∃ above, p.parent? = some above ∧ (∀ d : Disk, d.placeOf above = d.base p ++ names) ∧
      (above.text = [] ∨ GoesBy above names) := by
  obtain ⟨hnames, -, hshort⟩ := h.text
  have hcomponents : p.components =
      Path.start p.text ++ names.map .entry ++ [.entry last] := by
    rw [Path.components_eq, h.moves, List.map_append, List.append_assoc]
    rfl
  obtain ⟨above, habove, hfront⟩ := Path.exists_parent?_of_components hcomponents
  refine ⟨above, habove, fun d => ?_, ?_⟩
  · rw [Disk.placeOf, hfront, List.foldl_append, foldl_move_start, foldl_move_entries]
  · by_cases hne : above.text = []
    · exact Or.inl hne
    obtain ⟨hnames', hstart, hshort'⟩ := hnames.parent habove hne
    have hgoes := hnames'.goesBy hne (hshort'.trans hshort)
    rw [Path.components_eq, hstart, List.append_cancel_left_eq, hgoes.moves] at hfront
    rw [(List.map_inj_right fun _ _ => Component.entry.inj).mp hfront] at hgoes
    exact Or.inr hgoes

/-! ## Walking down -/

/-- There is no file on the way to a place, nor at the place. -/
def IsClear (d : Disk) (place : Place) : Prop :=
  ∀ above, above <+: place → ∀ bytes, d.lookup above ≠ some (.file bytes)

theorem IsClear.of_prefix (h : d.IsClear place) (habove : above <+: place) : d.IsClear above :=
  fun other hother => h other (hother.trans habove)

theorem IsTree.isClear (htree : d.IsTree) (h : d.lookup place = some .dir) : d.IsClear place := by
  rintro above ⟨rest, rfl⟩ bytes
  by_cases hrest : rest = []
  · rw [hrest, List.append_nil] at h
    rw [h]
    nofun
  · rw [htree.lookup_above hrest h]
    nofun

theorem IsClear.madeAbove (h : d.IsClear place) (hmade : MadeAbove target d d') :
    d'.IsClear place := by
  intro above habove bytes hfile
  rcases hmade.lookup above with hsame | ⟨-, hdir, -⟩
  · exact h above habove bytes (hsame.symm.trans hfile)
  · rw [hdir] at hfile
    cases hfile

theorem follow_of_none (hplace : d.lookup place = some .dir)
    (hname : isDots last = false ∧ Text.utf8Length last ≤ maxName)
    (hnone : d.lookup (place ++ [last]) = none) : d.follow place last = .error .noSuchFile := by
  obtain ⟨hdots, hshort⟩ := hname
  rw [isDots, Bool.or_eq_false_iff, beq_eq_false_iff_ne, beq_eq_false_iff_ne] at hdots
  simp only [follow, hplace, ne_eq, not_true_eq_false, if_false, hdots, Nat.not_lt.mpr hshort,
    hnone, Option.isSome_none, Bool.false_eq_true]

/-- **Down a way that is clear** a walk arrives at a directory, or else a name is missing. -/
theorem walk_of_isClear (htree : d.IsTree) (hplace : d.lookup place = some .dir)
    (hnames : ∀ name ∈ names, isDots name = false ∧ Text.utf8Length name ≤ maxName)
    (hclear : d.IsClear (place ++ names)) :
    d.walk place names =
      if d.lookup (place ++ names) = some .dir then .ok (place ++ names)
      else .error .noSuchFile := by
  induction names generalizing place with
  | nil => rw [List.append_nil, if_pos hplace, walk]
  | cons name rest ih =>
      obtain ⟨hname, hrest⟩ := List.forall_mem_cons.mp hnames
      have happend : place ++ name :: rest = place ++ [name] ++ rest := by
        rw [List.append_assoc, List.singleton_append]
      rw [happend] at hclear ⊢
      rw [walk]
      cases hnext : d.lookup (place ++ [name]) with
      | none =>
          have hend : d.lookup (place ++ [name] ++ rest) ≠ some .dir := by
            intro hend
            by_cases hnil : rest = []
            · rw [hnil, List.append_nil, hnext] at hend
              cases hend
            · rw [htree.lookup_above hnil hend] at hnext
              cases hnext
          rw [follow_of_none hplace hname hnext, if_neg hend]
      | some e =>
          cases e with
          | file bytes => exact absurd hnext (hclear _ (List.prefix_append _ _) bytes)
          | dir =>
              have hfollow : d.follow place name = .ok (place ++ [name]) :=
                follow_eq_ok_iff.mpr ⟨hplace, .down hname.1 hname.2 (by rw [hnext]; rfl)⟩
              rw [hfollow]
              exact ih hnext hrest hclear

/-! ## Making directories -/

section

variable (htree : d.IsTree)
include htree

theorem isDir_iff_of_isClear (h : GoesBy p names)
    (hclear : d.IsClear (d.placeOf p)) : d.isDir p = true ↔ d.lookup (d.placeOf p) = some .dir := by
  constructor
  · exact fun hdir => htree.lookup_placeOf (Or.inr hdir)
  · intro hdir
    rw [h.placeOf] at hclear hdir
    have hwalk := walk_of_isClear htree (htree.lookup_base p) h.isName hclear
    rw [if_pos hdir] at hwalk
    exact isDir_iff.mpr ⟨_, locate_eq_ok_iff.mpr ⟨names, h.steps, hwalk, hdir, fun hne =>
      absurd rfl hne⟩⟩

theorem holder_of_isClear (h : GoesBy p (names ++ [last]))
    (hclear : d.IsClear (d.base p ++ names)) : d.holder p = if d.lookup (d.base p ++ names) = some .dir
      then .ok (some (d.base p ++ names, last)) else .error .noSuchFile := by
  have hwalk := walk_of_isClear htree (htree.lookup_base p)
    (fun name hname => h.isName name (List.mem_append_left _ hname)) hclear
  by_cases hdir : d.lookup (d.base p ++ names) = some .dir
  · rw [if_pos hdir] at hwalk ⊢
    exact holder_eq_ok_iff.mpr ⟨names, h.steps, hwalk, hdir⟩
  · rw [if_neg hdir] at hwalk ⊢
    simp only [holder, h.steps, List.getLast?_concat, List.dropLast_concat, hwalk]

theorem makeDir_of_isClear (h : GoesBy p (names ++ [last])) (hclear : d.IsClear (d.placeOf p)) :
    d.makeDir p = if d.lookup (d.base p ++ names) = some .dir then
      if d.lookup (d.placeOf p) = some .dir then .error .fileExists
      else .ok (d.put (d.placeOf p) .dir)
    else .error .noSuchFile := by
  obtain ⟨hdots, hshort⟩ := h.isName last List.mem_concat_self
  have hplace : d.placeOf p = d.base p ++ names ++ [last] := by
    rw [h.placeOf, List.append_assoc]
  have hnofile := hclear _ (List.prefix_refl _)
  rw [hplace] at hclear hnofile ⊢
  have hholder := holder_of_isClear htree h (hclear.of_prefix (List.prefix_append _ _))
  by_cases hdir : d.lookup (d.base p ++ names) = some .dir
  · rw [if_pos hdir] at hholder ⊢
    simp only [makeDir, hholder, hdots, Bool.false_eq_true, if_false, Nat.not_lt.mpr hshort]
    cases hlast : d.lookup (d.base p ++ names ++ [last]) with
    | none => rfl
    | some e =>
        cases e with
        | dir => rfl
        | file bytes => exact absurd hlast (hnofile bytes)
  · rw [if_neg hdir] at hholder ⊢
    simp only [makeDir, hholder]

theorem exists_concat_of_isClear (h : GoesBy p names) (hclear : d.IsClear (d.placeOf p))
    (hdir : ¬ d.isDir p = true) :
    d.lookup (d.placeOf p) = none ∧ ∃ front last, names = front ++ [last] := by
  rw [isDir_iff_of_isClear htree h hclear] at hdir
  constructor
  · cases hlookup : d.lookup (d.placeOf p) with
    | none => rfl
    | some e =>
        cases e with
        | dir => exact absurd hlookup hdir
        | file bytes => exact absurd hlookup (hclear _ (List.prefix_refl _) bytes)
  · rcases List.eq_nil_or_concat names with rfl | ⟨front, last, hnames⟩
    · rw [h.placeOf, List.append_nil] at hdir
      exact absurd (htree.lookup_base p) hdir
    · exact ⟨front, last, by rw [hnames, List.concat_eq_append]⟩

theorem isDir_or_makeDir_of_isClear (h : GoesBy p (names ++ [last]))
    (hclear : d.IsClear (d.placeOf p)) (habove : d.lookup (d.base p ++ names) = some .dir) :
    d.isDir p = true ∨ ∃ made, d.makeDir p = .ok made := by
  rw [isDir_iff_of_isClear htree h hclear, makeDir_of_isClear htree h hclear, if_pos habove]
  by_cases hdir : d.lookup (d.placeOf p) = some .dir
  · exact Or.inl hdir
  · rw [if_neg hdir]
    exact Or.inr ⟨_, rfl⟩

/-- **Down a way that is clear all directories can be made.** -/
theorem makeDirs_of_isClear (h : GoesBy p names) (hclear : d.IsClear (d.placeOf p)) :
    (d.makeDirs p).1 = .ok () := by
  fun_induction makeDirs d p generalizing names with
  | case1 => rfl
  | case2 => rfl
  | case3 p hneither _ hnone =>
      obtain ⟨-, front, last, rfl⟩ :=
        exists_concat_of_isClear htree h hclear (not_or.mp hneither).2
      obtain ⟨above, habove, -⟩ := h.parent
      rw [hnone] at habove
      cases habove
  | case4 p hneither _ above habove _ cause made hfailed ih =>
      obtain ⟨-, front, last, rfl⟩ :=
        exists_concat_of_isClear htree h hclear (not_or.mp hneither).2
      obtain ⟨above', habove', hplace, hgoes⟩ := h.parent
      obtain rfl := Option.some.inj (habove.symm.trans habove')
      rcases hgoes with hnil | hgoes
      · rw [makeDirs, if_pos (Or.inl hnil)] at hfailed
        cases hfailed
      · have hway : d.placeOf above <+: d.placeOf p := by
          rw [hplace, h.placeOf, ← List.append_assoc]
          exact List.prefix_append _ _
        have hok := ih hgoes (hclear.of_prefix hway)
        rw [hfailed] at hok
        cases hok
  | case5 => rfl
  | case6 => rfl
  | case7 p hneither _ above habove _ between hbetween cause hlast hdir ih =>
      obtain ⟨-, front, last, rfl⟩ :=
        exists_concat_of_isClear htree h hclear (not_or.mp hneither).2
      obtain ⟨above', habove', hplace, hgoes⟩ := h.parent
      obtain rfl := Option.some.inj (habove.symm.trans habove')
      have hmade := MadeAbove.makeDirs d (List.prefix_refl above.components)
      have htree' := htree.makeDirs above
      have hreached := isDir_makeDirs (d := d) (p := above) (by rw [hbetween])
      rw [hbetween] at hmade htree' hreached
      have hclear' : between.IsClear (between.placeOf p) := by
        rw [placeOf_congr hmade.workDir]
        exact hclear.madeAbove hmade
      have hup := htree'.lookup_placeOf hreached
      rw [placeOf_congr hmade.workDir, hplace, ← base_congr hmade.workDir] at hup
      rcases isDir_or_makeDir_of_isClear htree' h hclear' hup with hdir' | ⟨made, hmade'⟩
      · exact absurd hdir' hdir
      · rw [hlast] at hmade'
        cases hmade'
  | case8 p hneither cause hother hmade =>
      obtain ⟨hnone, front, last, rfl⟩ :=
        exists_concat_of_isClear htree h hclear (not_or.mp hneither).2
      rw [makeDir_of_isClear htree h hclear, hnone] at hmade
      split at hmade
      · cases hmade
      · cases hmade
        exact absurd rfl hother

/-- Where directories could be made, the way was clear before. -/
theorem isClear_of_makeDirs (h : (d.makeDirs p).1 = .ok ()) : d.IsClear (d.placeOf p) := by
  have hgrown := (MadeAbove.makeDirs d (List.prefix_refl p.components)).toExtends
  have htree' := htree.makeDirs p
  have hdir := htree'.lookup_placeOf (isDir_makeDirs h)
  rw [placeOf_congr hgrown.workDir] at hdir
  intro above habove bytes hfile
  obtain ⟨bytes', hfile'⟩ := hgrown.file hfile
  exact htree'.isClear hdir above habove bytes' hfile'

theorem makeDirs_eq_ok_iff (h : GoesBy p names) :
    (d.makeDirs p).1 = .ok () ↔ d.IsClear (d.placeOf p) :=
  ⟨isClear_of_makeDirs htree, makeDirs_of_isClear htree h⟩

end

end Disk

end StoryScript
