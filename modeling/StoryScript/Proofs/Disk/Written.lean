/-
# `StoryScript.Proofs.Disk.Written` — what many writes do to a tree

Files are written into a folder one after the other.  If none is refused, what is at a place
afterwards follows from what was there before and from the list of the files:

    the place of a file      what was written there last
    a place above one        a directory, if nothing was there
    any other place          what was there

That is `Wrote`, and it holds of one write and then of any number (`wrote_of_writeAll`).  A
second time everything is ready, so every file is put where the same file is already
(`Wrote.again`).
-/
import StoryScript.Proofs.Compilation.Replay
import StoryScript.Proofs.Disk.Write

namespace StoryScript

namespace Disk

variable {d d' : Disk} {root path : Path} {files rest : List (Path × Text)} {place : Place}
  {code : Text}

/-! ## The last write to a place -/

/-- What was written to the place last, if one of the files went there. -/
def written? (d : Disk) (root : Path) (files : List (Path × Text)) (place : Place) : Option Text :=
  (files.reverse.find? fun file => d.placeOf (root.join file.1) == place).map (·.2)

theorem written?_append (d : Disk) (root : Path) (files rest : List (Path × Text)) (place : Place) :
    d.written? root (files ++ rest) place =
      (d.written? root rest place).or (d.written? root files place) := by
  rw [written?, List.reverse_append, List.find?_append, Option.map_or, written?, written?]

theorem written?_singleton (d : Disk) (root path : Path) (code : Text) (place : Place) :
    d.written? root [(path, code)] place =
      if place = d.placeOf (root.join path) then some code else none := by
  by_cases hplace : d.placeOf (root.join path) = place
  · simp only [written?, List.reverse_singleton, List.find?_cons, beq_iff_eq.mpr hplace,
      Option.map_some, if_pos hplace.symm]
  · simp only [written?, List.reverse_singleton, List.find?_cons, List.find?_nil,
      beq_eq_false_iff_ne.mpr hplace, Option.map_none, if_neg (Ne.symm hplace)]

theorem written?_congr (h : d'.workDir = d.workDir) : d'.written? = d.written? := by
  funext root files place
  have hplace : d'.placeOf = d.placeOf := funext (placeOf_congr h)
  rw [written?, written?, hplace]

theorem written?_eq_none_iff :
    d.written? root files place = none ↔
      ∀ path ∈ files.map (·.1), d.placeOf (root.join path) ≠ place := by
  rw [written?, Option.map_eq_none_iff, List.find?_eq_none]
  simp only [List.mem_reverse, beq_iff_eq, List.forall_mem_map]

theorem exists_written? (h : path ∈ files.map (·.1)) :
    ∃ code, d.written? root files (d.placeOf (root.join path)) = some code := by
  rw [← Option.ne_none_iff_exists']
  intro hnone
  exact written?_eq_none_iff.mp hnone path h rfl

/-! ## From one write to many -/

/-- The tree `d'` is what writing the files below the root has made of `d`. -/
structure Wrote (root : Path) (files : List (Path × Text)) (d d' : Disk) : Prop where
  grown : d.Extends d'
  holds : ∀ path ∈ files.map (·.1), d'.Holds (root.join path)
  contents : ∀ place code, d.written? root files place = some code →
    d'.lookup place = some (.file code.encode)
  others : ∀ place, d.written? root files place = none →
    d'.lookup place = d.lookup place ∨ (d.lookup place = none ∧ d'.lookup place = some .dir ∧
      ∃ path ∈ files.map (·.1), ∃ q : Path, q.components ≠ [] ∧
        q.components <+: (root.join path).components ∧ place = d.placeOf q)

namespace Wrote

protected theorem nil (root : Path) (d : Disk) : Wrote root [] d d where
  grown := .refl d
  holds := nofun
  contents := nofun
  others := fun _ _ => Or.inl rfl

theorem single {made : Disk} (hmade : MadeAbove (root.join path) d made)
    (hready : made.Ready (root.join path)) (htakes : made.Takes (root.join path)) (code : Text) :
    Wrote root [(path, code)] d
      (made.put (made.placeOf (root.join path)) (.file code.encode)) := by
  have hne : made.placeOf (root.join path) ≠ [] := ne_nil_of_lookup_ne_dir htakes.lookup_ne_dir
  refine ⟨hmade.toExtends.trans (extends_put_file htakes.lookup_ne_dir), ?_, ?_, ?_⟩
  · intro other hother
    rw [List.mem_singleton.mp hother]
    exact holds_put hready htakes code.encode
  · intro place text htext
    rw [written?_singleton] at htext
    split at htext
    · rename_i hplace
      cases htext
      rw [hplace, ← placeOf_congr hmade.workDir, lookup_put_self hne]
    · cases htext
  · intro place hnone
    have hplace := written?_eq_none_iff.mp hnone path (List.mem_singleton.mpr rfl)
    rw [← placeOf_congr hmade.workDir] at hplace
    rw [lookup_put_of_ne hne hplace.symm]
    refine (hmade.lookup place).imp_right ?_
    rintro ⟨hnone, hdir, hmade⟩
    exact ⟨hnone, hdir, path, List.mem_singleton.mpr rfl, hmade⟩

theorem append {between : Disk} (h : Wrote root files d between) (h' : Wrote root rest between d') :
    Wrote root (files ++ rest) d d' := by
  have hwork := h.grown.workDir
  refine ⟨h.grown.trans h'.grown, ?_, ?_, ?_⟩
  · intro path hpath
    rw [List.map_append] at hpath
    rcases List.mem_append.mp hpath with hpath | hpath
    · exact (h.holds path hpath).mono h'.grown
    · exact h'.holds path hpath
  · intro place code hcode
    rw [written?_append, ← written?_congr hwork] at hcode
    rcases Option.or_eq_some_iff.mp hcode with hlast | ⟨hrest, hfirst⟩
    · exact h'.contents place code hlast
    · rw [written?_congr hwork] at hfirst
      have hbetween := h.contents place code hfirst
      rcases h'.others place hrest with hsame | ⟨hnone, -⟩
      · rw [hsame, hbetween]
      · rw [hbetween] at hnone
        cases hnone
  · intro place hnone
    rw [written?_append, Option.or_eq_none_iff] at hnone
    obtain ⟨hrest, hfirst⟩ := hnone
    rw [← written?_congr hwork] at hrest
    have hbefore := h.others place hfirst
    rcases h'.others place hrest with hsame | ⟨hnone, hdir, path, hpath, q, hne, hq, hplace⟩
    · rw [hsame]
      refine hbefore.imp_right ?_
      rintro ⟨hnone, hdir, path, hpath, hmade⟩
      exact ⟨hnone, hdir, path, List.map_append ▸ List.mem_append_left _ hpath, hmade⟩
    · rcases hbefore with hsame | ⟨-, hdir', -⟩
      · rw [placeOf_congr hwork] at hplace
        exact Or.inr ⟨hsame ▸ hnone, hdir, path, List.map_append ▸ List.mem_append_right _ hpath,
          q, hne, hq, hplace⟩
      · rw [hdir'] at hnone
        cases hnone

end Wrote

theorem wrote_of_writeAll {f : Folder}
    (h : Sink.writeAll (⟨root, d⟩ : Folder) files = (.ok (), f)) :
    f.root = root ∧ Wrote root files d f.disk := by
  induction files generalizing d with
  | nil =>
      cases h
      exact ⟨rfl, .nil root d⟩
  | cons file rest ih =>
      obtain ⟨path, code⟩ := file
      obtain ⟨between, hwrite, hrest⟩ := Sink.exists_of_writeAll_cons_eq_ok h
      obtain ⟨made, hmade, ⟨failure, hrefused⟩ | ⟨hready, htakes, hput⟩⟩ :=
        Folder.write_cases ⟨root, d⟩ path code
      · rw [hwrite] at hrefused
        cases hrefused
      · rw [hwrite] at hput
        cases hput
        obtain ⟨hroot, hwrote⟩ := ih hrest
        have hfirst := Wrote.single hmade hready htakes code
        rw [placeOf_congr hmade.workDir] at hfirst
        exact ⟨hroot, hfirst.append hwrote⟩

/-! ## A second time -/

/-- Writes over files that are there already are all taken, and make no directory. -/
theorem exists_writeAll_of_holds (h : ∀ path ∈ files.map (·.1), d.Holds (root.join path)) :
    ∃ d', Sink.writeAll (⟨root, d⟩ : Folder) files = (.ok (), ⟨root, d'⟩) ∧
      ∀ place, d'.lookup place =
        ((d.written? root files place).map fun code => .file code.encode).or (d.lookup place) := by
  induction files generalizing d with
  | nil => exact ⟨d, rfl, fun _ => rfl⟩
  | cons file rest ih =>
      obtain ⟨path, code⟩ := file
      have hfirst : d.Holds (root.join path) := h path List.mem_cons_self
      have hdir := hfirst.takes.lookup_ne_dir
      have hne := ne_nil_of_lookup_ne_dir hdir
      have hgrown : d.Extends (d.put (d.placeOf (root.join path)) (.file code.encode)) :=
        extends_put_file hdir
      obtain ⟨d', hrest, hlookup⟩ := ih fun other hother =>
        (h other (List.mem_cons_of_mem _ hother)).mono hgrown
      have hwrite := Folder.write_of_holds (f := ⟨root, d⟩) hfirst code
      refine ⟨d', (Sink.writeAll_cons_of_ok hwrite).trans hrest, fun place => ?_⟩
      rw [hlookup, written?_congr hgrown.workDir, ← List.singleton_append, written?_append,
        written?_singleton]
      cases d.written? root rest place with
      | some later => rfl
      | none =>
          by_cases hplace : place = d.placeOf (root.join path)
          · rw [if_pos hplace, hplace, lookup_put_self hne]
            rfl
          · rw [if_neg hplace, lookup_put_of_ne hne hplace]
            rfl

/-- **The same files once more** change nothing. -/
theorem Wrote.again (h : Wrote root files d d') :
    ∃ d'', Sink.writeAll (⟨root, d'⟩ : Folder) files = (.ok (), ⟨root, d''⟩) ∧
      ∀ place, d''.lookup place = d'.lookup place := by
  obtain ⟨d'', hwrite, hlookup⟩ := exists_writeAll_of_holds h.holds
  refine ⟨d'', hwrite, fun place => ?_⟩
  rw [hlookup, written?_congr h.grown.workDir]
  cases hcode : d.written? root files place with
  | none => rfl
  | some code => exact (h.contents place code hcode).symm

end Disk

end StoryScript
