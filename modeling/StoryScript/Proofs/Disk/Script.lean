/-
# `StoryScript.Proofs.Disk.Script` — a script that lies on the disk it is compiled to

A compilation into a folder may write over its own script while it reads it.  The bytes at
the script's place change only by a file that is written there; making directories does not
touch them, and nor does a write that is refused.  So if none of the written files went to
the script's place, the script was read as it was at first
(`compileFile_eq_compileOpened`), and it is enough to know that of the files that would be
written, were it read so (`compileFile_eq_compileOpened_of_steady`).
-/
import StoryScript.Proofs.Compilation.Live
import StoryScript.Proofs.Disk.Write

namespace StoryScript

namespace Disk

variable {d d' : Disk} {cfg : Config} {root input target : Path} {place : Place} {bytes : Bytes}

/-! ## The bytes at a place -/

theorem contentsAt_of_file (h : d.lookup place = some (.file bytes)) :
    d.contentsAt place = bytes := by
  rw [contentsAt, h]

theorem contentsAt_put_of_ne {other : Place} {e : Entry} (h : place ≠ []) (hne : other ≠ place) :
    (d.put place e).contentsAt other = d.contentsAt other := by
  rw [contentsAt, contentsAt, lookup_put_of_ne h hne]

theorem MadeAbove.contentsAt (h : MadeAbove target d d') (place : Place) :
    d'.contentsAt place = d.contentsAt place := by
  rw [Disk.contentsAt, Disk.contentsAt]
  rcases h.lookup place with hsame | ⟨hnone, hdir, -⟩
  · rw [hsame]
  · rw [hnone, hdir]

/-! ## A folder that keeps the script -/

/-- The folder is as it was but for its files, and as long as none of the listed ones went to
the place of the script, the script is there as it was. -/
structure Folder.Spares (d : Disk) (root : Path) (script : Place) (f : Folder)
    (files : List Path) : Prop where
  same_root : f.root = root
  same_workDir : f.disk.workDir = d.workDir
  unharmed : (∀ p ∈ files, d.placeOf (root.join p) ≠ script) →
    f.disk.contentsAt script = d.contentsAt script

theorem Folder.Spares.contentsAt_eq {f : Folder} {files : List Path}
    (h : Folder.Spares d root place f files) (hfile : d.lookup place = some (.file bytes))
    (hclear : ∀ p ∈ files, d.placeOf (root.join p) ≠ place) : f.disk.contentsAt place = bytes := by
  rw [h.unharmed hclear]
  exact contentsAt_of_file hfile

theorem Folder.keptByWrites_spares (d : Disk) (root : Path) (script : Place) :
    KeptByWrites (Folder.Spares d root script) := by
  rintro s path code ⟨rfl, hwork, hscript⟩
  obtain ⟨between, hmade, ⟨failure, hwrite⟩ | ⟨-, htakes, hwrite⟩⟩ :=
    Folder.write_cases s.sink path code
  · rw [Session.write, hwrite]
    refine ⟨rfl, hmade.workDir.trans hwork, fun hclear => ?_⟩
    rw [hmade.contentsAt]
    exact hscript hclear
  · rw [Session.write, hwrite]
    refine ⟨rfl, hmade.workDir.trans hwork, fun hclear => ?_⟩
    have hhere : d.placeOf (s.sink.root.join path) ≠ script :=
      hclear path List.mem_concat_self
    have hbefore := hscript fun p hp => hclear p (List.mem_append_left _ hp)
    have hne : s.sink.disk.placeOf (s.sink.root.join path) ≠ [] := by
      rw [← placeOf_congr hmade.workDir]
      exact ne_nil_of_lookup_ne_dir htakes.lookup_ne_dir
    rw [← hbefore, ← hmade.contentsAt]
    refine contentsAt_put_of_ne hne ?_
    rw [placeOf_congr hwork]
    exact hhere.symm

/-! ## Compiling what the script held at first -/

theorem openSource_of_locate (h : d.locate input = .ok (place, .file bytes)) :
    d.openSource input = .ok ⟨bytes, none⟩ := by
  rw [openSource, find, h]
  rfl

theorem compileFile_of_locate (h : d.locate input = .ok (place, .file bytes)) :
    d.compileFile cfg root input =
      compileLive cfg input (fun f => f.disk.contentsAt place) ⟨root, d⟩ := by
  rw [compileFile, h]

theorem compileFile_cases (d : Disk) (cfg : Config) (root input : Path) :
    (∃ place bytes, d.locate input = .ok (place, .file bytes)) ∨
      d.compileFile cfg root input = compileOpened cfg input (d.openSource input) ⟨root, d⟩ := by
  rw [compileFile]
  rcases d.locate input with cause | ⟨place, bytes | _⟩
  · exact Or.inr rfl
  · exact Or.inl ⟨place, bytes, rfl⟩
  · exact Or.inr rfl

/-- **A compilation that does not write over its script** reads it as it was at first. -/
theorem compileFile_eq_compileOpened
    (hclear : ∀ p ∈ (d.compileFile cfg root input).2.progress.files,
      d.placeOf (root.join p) ≠ d.placeOf input) :
    d.compileFile cfg root input = compileOpened cfg input (d.openSource input) ⟨root, d⟩ := by
  rcases compileFile_cases d cfg root input with ⟨place, bytes, hlocate⟩ | hsame
  · rw [← eq_placeOf_of_locate hlocate] at hclear
    rw [compileFile_of_locate hlocate] at hclear ⊢
    rw [openSource_of_locate hlocate]
    refine compileLive_eq_compile (Folder.keptByWrites_spares d root place) ?_
      ⟨rfl, rfl, fun _ => rfl⟩ hclear
    intro f files hspares hfiles
    exact hspares.contentsAt_eq (lookup_of_locate hlocate) hfiles
  · exact hsame

/-- It suffices that no file goes to the script in a compilation of what it held at first. -/
theorem compileFile_eq_compileOpened_of_steady
    (hclear : ∀ p ∈ (compileOpened cfg input (d.openSource input)
      (⟨root, d⟩ : Folder)).2.progress.files, d.placeOf (root.join p) ≠ d.placeOf input) :
    d.compileFile cfg root input = compileOpened cfg input (d.openSource input) ⟨root, d⟩ := by
  rcases compileFile_cases d cfg root input with ⟨place, bytes, hlocate⟩ | hsame
  · rw [← eq_placeOf_of_locate hlocate, openSource_of_locate hlocate] at hclear
    rw [compileFile_of_locate hlocate, openSource_of_locate hlocate]
    refine compileLive_eq_compile_of_steady (Folder.keptByWrites_spares d root place) ?_
      ⟨rfl, rfl, fun _ => rfl⟩ hclear
    intro f files hspares hfiles
    exact hspares.contentsAt_eq (lookup_of_locate hlocate) hfiles
  · exact hsame

end Disk

end StoryScript
