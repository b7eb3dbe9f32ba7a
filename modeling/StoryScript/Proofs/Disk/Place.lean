/-
# `StoryScript.Proofs.Disk.Place` — which place a path denotes

A walk asks at every step what is there, so whether it arrives depends on the tree.  Where
it arrives does not, as there are no links: a name goes down, two dots go up, and that is
the place (`placeOf`, `eq_placeOf_of_walk`).

A tree grows when directories stay directories and files stay files, whatever is in them
then (`Extends`).  What has been reached before is reached by the same path in a tree that
has grown.
-/
import StoryScript.Disk
import StoryScript.Proofs.Path

namespace StoryScript

namespace Disk

variable {d d' : Disk} {p : Path} {place next : Place} {step last : Text} {names : List Text}
  {e : Entry}

/-! ## Places -/

/-- Where one component leads from a place. -/
def move (place : Place) : Component → Place
  | .root => []
  | .here => place
  | .up => place.dropLast
  | .entry name => place ++ [name]

/-- The place that a path denotes, whether anything is there or not. -/
def placeOf (d : Disk) (p : Path) : Place := p.components.foldl move d.workDir

theorem foldl_move_start (d : Disk) (p : Path) :
    (Path.start p.text).foldl move d.workDir = d.base p := by
  unfold Path.start base
  split
  · rfl
  · split
    · rfl
    · rfl

theorem placeOf_eq (d : Disk) (p : Path) :
    d.placeOf p = (Path.moves p.text).foldl move (d.base p) := by
  rw [placeOf, Path.components_eq, List.foldl_append, foldl_move_start]

theorem placeOf_congr (h : d'.workDir = d.workDir) (p : Path) : d'.placeOf p = d.placeOf p := by
  rw [placeOf, placeOf, h]

theorem base_congr (h : d'.workDir = d.workDir) (p : Path) : d'.base p = d.base p := by
  rw [base, base, h]

/-! ## Steps -/

/-- A step that leads somewhere from a directory. -/
inductive Follows (d : Disk) (place : Place) : Text → Place → Prop
  | here : Follows d place ['.'] place
  | up : Follows d place ['.', '.'] place.dropLast
  | down {step : Text} (hdots : isDots step = false) (hshort : Text.utf8Length step ≤ maxName)
      (hfound : (d.lookup (place ++ [step])).isSome) : Follows d place step (place ++ [step])

theorem follow_eq_ok_iff :
    d.follow place step = .ok next ↔ d.lookup place = some .dir ∧ d.Follows place step next := by
  constructor
  · intro h
    unfold follow at h
    split at h
    · cases h
    · rename_i hdir
      refine ⟨Decidable.not_not.mp hdir, ?_⟩
      split at h
      · rename_i hhere
        cases h
        rw [hhere]
        exact .here
      · split at h
        · rename_i hup
          cases h
          rw [hup]
          exact .up
        · split at h
          · cases h
          · split at h
            · rename_i hhere hup hshort hfound
              cases h
              refine .down ?_ (Nat.le_of_not_lt hshort) hfound
              rw [isDots, beq_eq_false_iff_ne.mpr hhere, beq_eq_false_iff_ne.mpr hup]
              rfl
            · cases h
  · rintro ⟨hdir, hfollows⟩
    cases hfollows with
    | here => simp only [follow, hdir, ne_eq, not_true_eq_false, if_false, if_true]
    | up =>
        have hne : ['.', '.'] ≠ ['.'] := by decide
        simp only [follow, hdir, ne_eq, not_true_eq_false, if_false, hne, if_true]
    | down hdots hshort hfound =>
        rw [isDots, Bool.or_eq_false_iff, beq_eq_false_iff_ne, beq_eq_false_iff_ne] at hdots
        simp only [follow, hdir, ne_eq, not_true_eq_false, if_false, hdots, Nat.not_lt.mpr hshort,
          hfound, if_true]

theorem step?_of_not_dots (hne : step ≠ []) (hdots : isDots step = false) :
    Path.step? step = some (.entry step) := by
  rw [isDots, Bool.or_eq_false_iff, beq_eq_false_iff_ne, beq_eq_false_iff_ne] at hdots
  rw [Path.step?, if_neg (not_or.mpr ⟨hne, hdots.1⟩), if_neg hdots.2]

theorem steps_eq_ok (h : steps p = .ok names) : names = (Path.segments p.text).filter (· ≠ []) := by
  unfold steps at h
  split at h
  · cases h
  · split at h
    · cases h
    · split at h
      · cases h
      · cases h
        rfl

theorem ne_nil_of_mem_steps (h : steps p = .ok names) : ∀ name ∈ names, name ≠ [] := by
  intro name hname
  rw [steps_eq_ok h] at hname
  exact of_decide_eq_true (List.mem_filter.mp hname).2

theorem filterMap_step?_steps (h : steps p = .ok names) :
    names.filterMap Path.step? = Path.moves p.text := by
  rw [steps_eq_ok h, Path.moves, List.filterMap_filter]
  congr 1
  funext segment
  by_cases hnil : segment = []
  · rw [hnil]
    rfl
  · rw [if_pos (decide_eq_true hnil)]

/-! ## Walks -/

theorem walk_append (d : Disk) (place : Place) (front back : List Text) :
    d.walk place (front ++ back) = (d.walk place front).bind (d.walk · back) := by
  induction front generalizing place with
  | nil => rfl
  | cons step rest ih =>
      rw [List.cons_append, walk, walk]
      cases d.follow place step with
      | error cause => rfl
      | ok next => exact ih next

theorem walk_cons_eq_ok_iff {rest : List Text} :
    d.walk place (step :: rest) = .ok next ↔
      ∃ between, d.follow place step = .ok between ∧ d.walk between rest = .ok next := by
  rw [walk]
  cases d.follow place step with
  | error cause => exact ⟨nofun, fun ⟨_, hfollow, _⟩ => nomatch hfollow⟩
  | ok between =>
      constructor
      · intro h
        exact ⟨between, rfl, h⟩
      · rintro ⟨_, hfollow, h⟩
        cases hfollow
        exact h

theorem Follows.eq_foldl_move (h : d.Follows place step next) (hne : step ≠ []) :
    next = ([step].filterMap Path.step?).foldl move place := by
  cases h with
  | here => rfl
  | up => rfl
  | down hdots =>
      rw [List.filterMap_cons_some (step?_of_not_dots hne hdots)]
      rfl

/-- A walk that arrives does so at the place that its steps make by themselves. -/
theorem eq_foldl_move_of_walk (h : d.walk place names = .ok next)
    (hne : ∀ name ∈ names, name ≠ []) :
    next = (names.filterMap Path.step?).foldl move place := by
  induction names generalizing place with
  | nil =>
      cases h
      rfl
  | cons step rest ih =>
      obtain ⟨between, hfollow, hwalk⟩ := walk_cons_eq_ok_iff.mp h
      have hbetween := (follow_eq_ok_iff.mp hfollow).2.eq_foldl_move (hne _ List.mem_cons_self)
      rw [ih hwalk fun name hname => hne name (List.mem_cons_of_mem _ hname), hbetween,
        ← List.foldl_append, ← List.filterMap_append]
      rfl

theorem eq_placeOf_of_walk (hsteps : steps p = .ok names)
    (hwalk : d.walk (d.base p) names = .ok next) : next = d.placeOf p := by
  rw [placeOf_eq, ← filterMap_step?_steps hsteps]
  exact eq_foldl_move_of_walk hwalk (ne_nil_of_mem_steps hsteps)

/-! ## What a path denotes -/

theorem locate_eq_ok_iff :
    d.locate p = .ok (place, e) ↔ ∃ names, steps p = .ok names ∧
      d.walk (d.base p) names = .ok place ∧ d.lookup place = some e ∧
      (e ≠ .dir → wantsDirectory p = false) := by
  constructor
  · intro h
    unfold locate at h
    split at h
    · cases h
    · rename_i names hsteps
      split at h
      · cases h
      · rename_i next hwalk
        split at h
        · cases h
        · rename_i hdir
          cases h
          exact ⟨names, hsteps, hwalk, hdir, fun hne => absurd rfl hne⟩
        · rename_i hfile
          split at h
          · cases h
          · rename_i hwants
            cases h
            exact ⟨names, hsteps, hwalk, hfile, fun _ => Bool.eq_false_iff.mpr hwants⟩
  · rintro ⟨names, hsteps, hwalk, hlookup, hwants⟩
    simp only [locate, hsteps, hwalk, hlookup]
    cases e with
    | dir => rfl
    | file b =>
        rw [hwants nofun]
        rfl

theorem holder_eq_ok_iff :
    d.holder p = .ok (some (place, last)) ↔ ∃ names, steps p = .ok (names ++ [last]) ∧
      d.walk (d.base p) names = .ok place ∧ d.lookup place = some .dir := by
  constructor
  · intro h
    unfold holder at h
    split at h
    · cases h
    · rename_i names hsteps
      split at h
      · cases h
      · rename_i final hfinal
        split at h
        · cases h
        · rename_i next hwalk
          split at h
          · rename_i hdir
            cases h
            obtain ⟨front, rfl⟩ := List.getLast?_eq_some_iff.mp hfinal
            rw [List.dropLast_concat] at hwalk
            exact ⟨front, hsteps, hwalk, hdir⟩
          · cases h
  · rintro ⟨names, hsteps, hwalk, hdir⟩
    simp only [holder, hsteps, List.getLast?_concat, List.dropLast_concat, hwalk, hdir, if_true]

/-- The last step is a component of its own, and the others lead to the place that holds it. -/
theorem exists_components_of_holder (h : d.holder p = .ok (some (place, last)))
    (hdots : isDots last = false) :
    ∃ front, p.components = front ++ [.entry last] ∧ front.foldl move d.workDir = place := by
  obtain ⟨names, hsteps, hwalk, -⟩ := holder_eq_ok_iff.mp h
  have hne := ne_nil_of_mem_steps hsteps
  have hplace : place = (names.filterMap Path.step?).foldl move (d.base p) :=
    eq_foldl_move_of_walk hwalk fun name hname => hne name (List.mem_append_left _ hname)
  have hlast : Path.step? last = some (.entry last) :=
    step?_of_not_dots (hne last List.mem_concat_self) hdots
  refine ⟨Path.start p.text ++ names.filterMap Path.step?, ?_, ?_⟩
  · rw [Path.components_eq, ← filterMap_step?_steps hsteps, List.filterMap_append,
      List.filterMap_cons_some hlast, List.append_assoc]
    rfl
  · rw [List.foldl_append, foldl_move_start, hplace]

theorem placeOf_of_holder (h : d.holder p = .ok (some (place, last)))
    (hdots : isDots last = false) : d.placeOf p = place ++ [last] := by
  obtain ⟨front, hcomponents, hplace⟩ := exists_components_of_holder h hdots
  rw [placeOf, hcomponents, List.foldl_append, hplace]
  rfl

theorem isDir_iff : d.isDir p = true ↔ ∃ place, d.locate p = .ok (place, .dir) := by
  rw [isDir, find]
  rcases d.locate p with cause | ⟨place, _ | _⟩
  · exact ⟨nofun, nofun⟩
  · exact ⟨nofun, nofun⟩
  · exact ⟨fun _ => ⟨place, rfl⟩, fun _ => rfl⟩

theorem eq_placeOf_of_locate (h : d.locate p = .ok (place, e)) : place = d.placeOf p := by
  obtain ⟨names, hsteps, hwalk, -⟩ := locate_eq_ok_iff.mp h
  exact eq_placeOf_of_walk hsteps hwalk

theorem lookup_of_locate (h : d.locate p = .ok (place, e)) : d.lookup place = some e := by
  obtain ⟨names, -, -, hlookup, -⟩ := locate_eq_ok_iff.mp h
  exact hlookup

/-! ## Below a root -/

theorem foldl_move_entries (place : Place) (names : List Text) :
    (names.map .entry).foldl move place = place ++ names := by
  induction names generalizing place with
  | nil => exact (List.append_nil place).symm
  | cons name rest ih =>
      rw [List.map_cons, List.foldl_cons, ih, move, List.append_assoc]
      rfl

theorem placeOf_join {root p : Path} {names : List Text} (h : p.IsPlain)
    (hnames : p.components = names.map .entry) :
    d.placeOf (root.join p) = d.placeOf root ++ names := by
  rw [placeOf, Path.components_join root h.start_eq_nil, List.foldl_append, hnames,
    foldl_move_entries, placeOf]

/-- Plain paths denote the same place exactly if they have the same components. -/
theorem placeOf_join_inj {root p q : Path} (hp : p.IsPlain) (hq : q.IsPlain) :
    d.placeOf (root.join p) = d.placeOf (root.join q) ↔ p.components = q.components := by
  obtain ⟨names, hnames⟩ := Path.exists_names_of_isEntry hp
  obtain ⟨others, hothers⟩ := Path.exists_names_of_isEntry hq
  rw [placeOf_join hp hnames, placeOf_join hq hothers, hnames, hothers, List.append_right_inj,
    List.map_inj_right fun _ _ => Component.entry.inj]

/-- Without two dots, the first components of a path lead to a place above, and the others
down from there. -/
theorem exists_placeOf_eq_append {q : Path} {rest : List Component} (hup : .up ∉ p.components)
    (hne : q.components ≠ []) (hrest : p.components = q.components ++ rest) :
    ∃ names : List Text, rest = names.map .entry ∧ d.placeOf p = d.placeOf q ++ names := by
  have htail : ∀ c ∈ rest, c.isEntry = true := by
    intro c hc
    refine Path.isEntry_of_mem_tail hup c ?_
    rw [hrest, List.tail_append_of_ne_nil hne]
    exact List.mem_append_right _ hc
  obtain ⟨names, rfl⟩ := Path.exists_names_of_isEntry htail
  exact ⟨names, rfl, by rw [placeOf, placeOf, hrest, List.foldl_append, foldl_move_entries]⟩

theorem placeOf_prefix {q : Path} (hup : .up ∉ p.components) (hne : q.components ≠ [])
    (hq : q.components <+: p.components) : d.placeOf q <+: d.placeOf p := by
  obtain ⟨rest, hrest⟩ := hq
  obtain ⟨names, -, hplace⟩ := exists_placeOf_eq_append (d := d) hup hne hrest.symm
  rw [hplace]
  exact List.prefix_append _ _

/-! ## Trees that have grown -/

/-- Directories are still directories, and files still files. -/
structure Extends (d d' : Disk) : Prop where
  workDir : d'.workDir = d.workDir
  dir : ∀ {place}, d.lookup place = some .dir → d'.lookup place = some .dir
  file : ∀ {place b}, d.lookup place = some (.file b) → ∃ b', d'.lookup place = some (.file b')

namespace Extends

theorem refl (d : Disk) : d.Extends d := ⟨rfl, id, fun h => ⟨_, h⟩⟩

theorem trans {d₁ d₂ d₃ : Disk} (h : d₁.Extends d₂) (h' : d₂.Extends d₃) : d₁.Extends d₃ where
  workDir := h'.workDir.trans h.workDir
  dir := fun hdir => h'.dir (h.dir hdir)
  file := by
    intro place b hfile
    obtain ⟨b', hfile'⟩ := h.file hfile
    exact h'.file hfile'

theorem isSome (h : d.Extends d') (hsome : (d.lookup place).isSome) : (d'.lookup place).isSome := by
  obtain ⟨e, he⟩ := Option.isSome_iff_exists.mp hsome
  cases e with
  | dir => rw [h.dir he, Option.isSome_some]
  | file b =>
      obtain ⟨b', hfile⟩ := h.file he
      rw [hfile, Option.isSome_some]

theorem follow (h : d.Extends d') (hfollow : d.follow place step = .ok next) :
    d'.follow place step = .ok next := by
  obtain ⟨hdir, hfollows⟩ := follow_eq_ok_iff.mp hfollow
  refine follow_eq_ok_iff.mpr ⟨h.dir hdir, ?_⟩
  cases hfollows with
  | here => exact .here
  | up => exact .up
  | down hdots hshort hfound => exact .down hdots hshort (h.isSome hfound)

theorem walk (h : d.Extends d') (hwalk : d.walk place names = .ok next) :
    d'.walk place names = .ok next := by
  induction names generalizing place with
  | nil => exact hwalk
  | cons step rest ih =>
      obtain ⟨between, hfollow, hrest⟩ := walk_cons_eq_ok_iff.mp hwalk
      exact walk_cons_eq_ok_iff.mpr ⟨between, h.follow hfollow, ih hrest⟩

theorem locate_dir (h : d.Extends d') (hlocate : d.locate p = .ok (place, .dir)) :
    d'.locate p = .ok (place, .dir) := by
  obtain ⟨names, hsteps, hwalk, hdir, hwants⟩ := locate_eq_ok_iff.mp hlocate
  rw [← base_congr h.workDir p] at hwalk
  exact locate_eq_ok_iff.mpr ⟨names, hsteps, h.walk hwalk, h.dir hdir, hwants⟩

theorem isDir (h : d.Extends d') (hdir : d.isDir p = true) : d'.isDir p = true := by
  obtain ⟨place, hlocate⟩ := isDir_iff.mp hdir
  exact isDir_iff.mpr ⟨place, h.locate_dir hlocate⟩

theorem holder (h : d.Extends d') (hholder : d.holder p = .ok (some (place, last))) :
    d'.holder p = .ok (some (place, last)) := by
  obtain ⟨names, hsteps, hwalk, hdir⟩ := holder_eq_ok_iff.mp hholder
  rw [← base_congr h.workDir p] at hwalk
  exact holder_eq_ok_iff.mpr ⟨names, hsteps, h.walk hwalk, h.dir hdir⟩

end Extends

end Disk

end StoryScript
