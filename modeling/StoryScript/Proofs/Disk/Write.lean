/-
# `StoryScript.Proofs.Disk.Write` — what one write does to a tree

A write into a folder makes the directories on the way to its target and then puts the
file there.  Each part is an equation on what is at a place:

    directories    a place on the way that was empty is a directory now (`MadeAbove`)
    the file       the place of the target has it, every other place what it had

A failed write has done the first part only, as far as it came.  After a write that has
not failed the target is as a file should be: the directory above it is there, and it can be
written over (`Holds`); it stays so as the tree grows, whatever else is written.
-/
import StoryScript.Disk.Folder
import StoryScript.Proofs.Disk.Place

namespace StoryScript

namespace Disk

variable {d d' : Disk} {p q target : Path} {place other : Place} {last : Text} {e : Entry}
  {bytes : Bytes}

/-! ## Putting -/

theorem lookup_put_self (h : place ≠ []) : (d.put place e).lookup place = some e := by
  rw [lookup_put d h, if_pos rfl]

theorem lookup_put_of_ne (h : place ≠ []) (hne : other ≠ place) :
    (d.put place e).lookup other = d.lookup other := by
  rw [lookup_put d h, if_neg hne]

theorem ne_nil_of_lookup_ne_dir (h : d.lookup place ≠ some .dir) : place ≠ [] := by
  rintro rfl
  exact h rfl

theorem extends_put_dir (h : d.lookup place = none) : d.Extends (d.put place .dir) := by
  have hne : place ≠ [] := ne_nil_of_lookup_ne_dir (by rw [h]; nofun)
  refine ⟨rfl, ?_, ?_⟩
  · intro other hdir
    rw [lookup_put_of_ne hne, hdir]
    rintro rfl
    rw [h] at hdir
    cases hdir
  · intro other b hfile
    refine ⟨b, ?_⟩
    rw [lookup_put_of_ne hne, hfile]
    rintro rfl
    rw [h] at hfile
    cases hfile

theorem extends_put_file (h : d.lookup place ≠ some .dir) :
    d.Extends (d.put place (.file bytes)) := by
  have hne : place ≠ [] := ne_nil_of_lookup_ne_dir h
  refine ⟨rfl, ?_, ?_⟩
  · intro other hdir
    rw [lookup_put_of_ne hne, hdir]
    rintro rfl
    exact h hdir
  · intro other b hfile
    by_cases hother : other = place
    · rw [hother]
      exact ⟨bytes, lookup_put_self hne⟩
    · rw [lookup_put_of_ne hne hother]
      exact ⟨b, hfile⟩

/-! ## Making directories -/

theorem locate_of_holder (h : d.holder p = .ok (some (place, last))) (hdots : isDots last = false)
    (hshort : Text.utf8Length last ≤ maxName) (hlookup : d.lookup (place ++ [last]) = some e)
    (hwants : e ≠ .dir → wantsDirectory p = false) : d.locate p = .ok (place ++ [last], e) := by
  obtain ⟨names, hsteps, hwalk, hdir⟩ := holder_eq_ok_iff.mp h
  refine locate_eq_ok_iff.mpr ⟨_, hsteps, ?_, hlookup, hwants⟩
  have hfound : (d.lookup (place ++ [last])).isSome := by rw [hlookup, Option.isSome_some]
  rw [walk_append, hwalk]
  exact walk_cons_eq_ok_iff.mpr
    ⟨_, follow_eq_ok_iff.mpr ⟨hdir, .down hdots hshort hfound⟩, rfl⟩

theorem makeDir_eq_ok (h : d.makeDir p = .ok d') :
    p.components ≠ [] ∧ d.lookup (d.placeOf p) = none ∧ d' = d.put (d.placeOf p) .dir ∧
      d'.isDir p = true := by
  unfold makeDir at h
  split at h
  · cases h
  · cases h
  · rename_i place last hholder
    split at h
    · cases h
    · split at h
      · cases h
      · split at h
        · cases h
        · rename_i hdots hshort hnone
          cases h
          have hdots := Bool.eq_false_iff.mpr hdots
          have hnone := Option.not_isSome_iff_eq_none.mp hnone
          have hextends := extends_put_dir hnone
          obtain ⟨front, hcomponents, -⟩ := exists_components_of_holder hholder hdots
          rw [placeOf_of_holder hholder hdots, hcomponents]
          refine ⟨List.concat_ne_nil _ _, hnone, rfl, isDir_iff.mpr ⟨place ++ [last], ?_⟩⟩
          exact locate_of_holder (hextends.holder hholder) hdots (Nat.le_of_not_lt hshort)
            (lookup_put_self (List.concat_ne_nil _ _)) fun hne => absurd rfl hne

/-- The tree has directories on the way to the target that it had not, and is the same
otherwise. -/
structure MadeAbove (target : Path) (d d' : Disk) : Prop where
  workDir : d'.workDir = d.workDir
  lookup : ∀ place, d'.lookup place = d.lookup place ∨
    (d.lookup place = none ∧ d'.lookup place = some .dir ∧
      ∃ q : Path, q.components ≠ [] ∧ q.components <+: target.components ∧ place = d.placeOf q)

namespace MadeAbove

theorem refl (target : Path) (d : Disk) : MadeAbove target d d := ⟨rfl, fun _ => Or.inl rfl⟩

theorem trans {d₁ d₂ d₃ : Disk} (h : MadeAbove target d₁ d₂) (h' : MadeAbove target d₂ d₃) :
    MadeAbove target d₁ d₃ := by
  refine ⟨h'.workDir.trans h.workDir, fun place => ?_⟩
  rcases h'.lookup place with hsame | ⟨hnone, hdir, q, hne, hq, hplace⟩
  · rw [hsame]
    exact h.lookup place
  · rcases h.lookup place with hsame' | ⟨-, hdir', -⟩
    · rw [placeOf_congr h.workDir] at hplace
      exact Or.inr ⟨hsame' ▸ hnone, hdir, q, hne, hq, hplace⟩
    · rw [hdir'] at hnone
      cases hnone

theorem toExtends (h : MadeAbove target d d') : d.Extends d' := by
  refine ⟨h.workDir, ?_, ?_⟩
  · intro place hdir
    rcases h.lookup place with hsame | ⟨hnone, -⟩
    · rw [hsame, hdir]
    · rw [hdir] at hnone
      cases hnone
  · intro place b hfile
    rcases h.lookup place with hsame | ⟨hnone, -⟩
    · exact ⟨b, by rw [hsame, hfile]⟩
    · rw [hfile] at hnone
      cases hnone

theorem makeDir (hp : p.components <+: target.components) (h : d.makeDir p = .ok d') :
    MadeAbove target d d' := by
  obtain ⟨hcomponents, hnone, rfl, -⟩ := makeDir_eq_ok h
  have hne : d.placeOf p ≠ [] := ne_nil_of_lookup_ne_dir (by rw [hnone]; nofun)
  refine ⟨rfl, fun place => ?_⟩
  by_cases hplace : place = d.placeOf p
  · rw [hplace]
    exact Or.inr ⟨hnone, lookup_put_self hne, p, hcomponents, hp, rfl⟩
  · exact Or.inl (lookup_put_of_ne hne hplace)

theorem makeDirs (d : Disk) (hp : p.components <+: target.components) :
    MadeAbove target d (d.makeDirs p).2 := by
  fun_induction Disk.makeDirs d p with
  | case1 p _ => exact .refl target d
  | case2 p _ made hmade => exact .makeDir hp hmade
  | case3 p _ _ _ => exact .refl target d
  | case4 p _ _ above habove _ _ made habovemade ih =>
      have hmade := ih ((Path.components_parent?_prefix habove).trans hp)
      rwa [habovemade] at hmade
  | case5 p _ _ above habove _ between hbetween made hlast ih =>
      have hmade := ih ((Path.components_parent?_prefix habove).trans hp)
      rw [hbetween] at hmade
      exact hmade.trans (.makeDir hp hlast)
  | case6 p _ _ above habove _ between hbetween _ _ _ ih =>
      have hmade := ih ((Path.components_parent?_prefix habove).trans hp)
      rwa [hbetween] at hmade
  | case7 p _ _ above habove _ between hbetween _ _ _ ih =>
      have hmade := ih ((Path.components_parent?_prefix habove).trans hp)
      rwa [hbetween] at hmade
  | case8 p _ _ _ => exact .refl target d

end MadeAbove

theorem isDir_makeDirs (h : (d.makeDirs p).1 = .ok ()) :
    p.text = [] ∨ (d.makeDirs p).2.isDir p = true := by
  fun_induction makeDirs d p with
  | case1 p hp => exact hp
  | case2 p _ made hmade => exact Or.inr (makeDir_eq_ok hmade).2.2.2
  | case3 => cases h
  | case4 => cases h
  | case5 p _ _ _ _ _ _ _ made hlast _ => exact Or.inr (makeDir_eq_ok hlast).2.2.2
  | case6 p _ _ _ _ _ _ _ _ _ hdir _ => exact Or.inr hdir
  | case7 => cases h
  | case8 => cases h

/-! ## Putting a file -/

/-- A file can be put where the path leads. -/
def Takes (d : Disk) (p : Path) : Prop :=
  ∃ place last, d.holder p = .ok (some (place, last)) ∧ isDots last = false ∧
    wantsDirectory p = false ∧ Text.utf8Length last ≤ maxName ∧
    d.lookup (place ++ [last]) ≠ some .dir

theorem Takes.lookup_ne_dir (h : d.Takes p) : d.lookup (d.placeOf p) ≠ some .dir := by
  obtain ⟨place, last, hholder, hdots, -, -, hdir⟩ := h
  rwa [placeOf_of_holder hholder hdots]

theorem writeFile_eq_ok_iff :
    d.writeFile p bytes = .ok d' ↔ d.Takes p ∧ d' = d.put (d.placeOf p) (.file bytes) := by
  constructor
  · intro h
    unfold writeFile at h
    split at h
    · cases h
    · cases h
    · rename_i place last hholder
      split at h
      · cases h
      · split at h
        · cases h
        · split at h
          · cases h
          · rename_i hneither hshort hdir
            cases h
            obtain ⟨hdots, hwants⟩ := not_or.mp hneither
            have hdots := Bool.eq_false_iff.mpr hdots
            rw [placeOf_of_holder hholder hdots]
            exact ⟨⟨place, last, hholder, hdots, Bool.eq_false_iff.mpr hwants,
              Nat.le_of_not_lt hshort, hdir⟩, rfl⟩
  · rintro ⟨⟨place, last, hholder, hdots, hwants, hshort, hdir⟩, rfl⟩
    rw [placeOf_of_holder hholder hdots]
    simp only [writeFile, hholder, hdots, hwants, Bool.false_eq_true, or_self, if_false,
      Nat.not_lt.mpr hshort, hdir]

theorem Takes.locate (h : d.Takes p) (hfile : d.lookup (d.placeOf p) = some (.file bytes)) :
    d.locate p = .ok (d.placeOf p, .file bytes) := by
  obtain ⟨place, last, hholder, hdots, hwants, hshort, -⟩ := h
  rw [placeOf_of_holder hholder hdots] at hfile ⊢
  exact locate_of_holder hholder hdots hshort hfile fun _ => hwants

theorem readFile_of_locate (h : d.locate p = .ok (place, .file bytes)) :
    d.readFile p = .ok bytes := by
  rw [readFile, openSource, find, h]
  rfl

/-! ## Files as they should be -/

/-- The directory that is to hold the target is there, as far as it has a name. -/
def Ready (d : Disk) (target : Path) : Prop :=
  ∀ above, target.parent? = some above → above.text = [] ∨ d.isDir above = true

theorem makeAbove_of_none (h : target.parent? = none) : d.makeAbove target = (.ok (), d) := by
  unfold makeAbove
  rw [h]

theorem makeAbove_of_some {above : Path} (h : target.parent? = some above) :
    d.makeAbove target =
      ((d.makeDirs above).1.mapError (IoFailure.mk above), (d.makeDirs above).2) := by
  unfold makeAbove
  rw [h]
  dsimp only
  rcases d.makeDirs above with ⟨cause | _, made⟩
  · rfl
  · rfl

theorem ready_of_makeAbove (h : (d.makeAbove target).1 = .ok ()) :
    (d.makeAbove target).2.Ready target := by
  intro above habove
  rw [makeAbove_of_some habove] at h ⊢
  refine isDir_makeDirs ?_
  cases hdirs : (d.makeDirs above).1 with
  | error cause =>
      rw [hdirs] at h
      cases h
  | ok _ => rfl

theorem MadeAbove.makeAbove (target : Path) (d : Disk) :
    MadeAbove target d (d.makeAbove target).2 := by
  cases habove : target.parent? with
  | none =>
      rw [makeAbove_of_none habove]
      exact .refl target d
  | some above =>
      rw [makeAbove_of_some habove]
      exact .makeDirs d (Path.components_parent?_prefix habove)

theorem Ready.makeAbove (h : d.Ready target) : d.makeAbove target = (.ok (), d) := by
  cases habove : target.parent? with
  | none => exact makeAbove_of_none habove
  | some above =>
      have hdirs : d.makeDirs above = (.ok (), d) := by rw [makeDirs, if_pos (h above habove)]
      rw [makeAbove_of_some habove, hdirs]
      rfl

/-- There is a file at the target, and everything is ready to write it again. -/
structure Holds (d : Disk) (target : Path) : Prop where
  ready : d.Ready target
  takes : d.Takes target
  file : ∃ bytes, d.lookup (d.placeOf target) = some (.file bytes)

theorem Ready.mono (h : d.Ready target) (hextends : d.Extends d') : d'.Ready target := by
  intro above habove
  exact (h above habove).imp_right hextends.isDir

theorem Takes.mono (h : d.Takes p) (hextends : d.Extends d')
    (hdir : d'.lookup (d'.placeOf p) ≠ some .dir) : d'.Takes p := by
  obtain ⟨place, last, hholder, hdots, hwants, hshort, -⟩ := h
  have hholder' := hextends.holder hholder
  rw [placeOf_of_holder hholder' hdots] at hdir
  exact ⟨place, last, hholder', hdots, hwants, hshort, hdir⟩

theorem Holds.mono (h : d.Holds target) (hextends : d.Extends d') : d'.Holds target := by
  obtain ⟨bytes, hfile⟩ := h.file
  obtain ⟨bytes', hfile'⟩ := hextends.file hfile
  rw [← placeOf_congr hextends.workDir] at hfile'
  exact ⟨h.ready.mono hextends, h.takes.mono hextends (by rw [hfile']; nofun), bytes', hfile'⟩

theorem holds_put (hready : d.Ready target) (htakes : d.Takes target) (bytes : Bytes) :
    (d.put (d.placeOf target) (.file bytes)).Holds target := by
  have hne : d.placeOf target ≠ [] := ne_nil_of_lookup_ne_dir htakes.lookup_ne_dir
  have hgrown : d.Extends (d.put (d.placeOf target) (.file bytes)) :=
    extends_put_file htakes.lookup_ne_dir
  have hfile : (d.put (d.placeOf target) (.file bytes)).lookup
      ((d.put (d.placeOf target) (.file bytes)).placeOf target) = some (.file bytes) := by
    rw [placeOf_congr hgrown.workDir, lookup_put_self hne]
  exact ⟨hready.mono hgrown, htakes.mono hgrown (by rw [hfile]; nofun), bytes, hfile⟩

/-! ## Writing into a folder -/

/-- A write makes directories above its target, and then it puts the file there or it is
refused. -/
theorem Folder.write_cases (f : Folder) (path : Path) (code : Text) :
    ∃ between : Disk, MadeAbove (f.root.join path) f.disk between ∧
      ((∃ failure, Sink.write f path code = (.error failure, ⟨f.root, between⟩)) ∨
        (between.Ready (f.root.join path) ∧ between.Takes (f.root.join path) ∧
          Sink.write f path code = (.ok (),
            ⟨f.root, between.put (f.disk.placeOf (f.root.join path)) (.file code.encode)⟩))) := by
  have hmade := MadeAbove.makeAbove (f.root.join path) f.disk
  have hready := @ready_of_makeAbove f.disk (f.root.join path)
  rcases hdirs : f.disk.makeAbove (f.root.join path) with ⟨failure | _, between⟩
  · rw [hdirs] at hmade
    refine ⟨between, hmade, Or.inl ⟨failure, ?_⟩⟩
    show Folder.write f path code = _
    simp only [Folder.write, hdirs]
  · rw [hdirs] at hmade hready
    refine ⟨between, hmade, ?_⟩
    rcases hfile : between.writeFile (f.root.join path) code.encode with cause | disk
    · refine Or.inl ⟨⟨f.root.join path, cause⟩, ?_⟩
      show Folder.write f path code = _
      simp only [Folder.write, hdirs, hfile]
    · obtain ⟨htakes, rfl⟩ := writeFile_eq_ok_iff.mp hfile
      refine Or.inr ⟨hready rfl, htakes, ?_⟩
      show Folder.write f path code = _
      simp only [Folder.write, hdirs, hfile, placeOf_congr hmade.workDir]

/-- A write over a file that is there, below directories that are, changes this file only. -/
theorem Folder.write_of_holds {f : Folder} {path : Path} (h : f.disk.Holds (f.root.join path))
    (code : Text) :
    Sink.write f path code =
      (.ok (), ⟨f.root, f.disk.put (f.disk.placeOf (f.root.join path)) (.file code.encode)⟩) := by
  have hfile : f.disk.writeFile (f.root.join path) code.encode = _ :=
    writeFile_eq_ok_iff.mpr ⟨h.takes, rfl⟩
  show Folder.write f path code = _
  simp only [Folder.write, h.ready.makeAbove, hfile]

end Disk

end StoryScript
