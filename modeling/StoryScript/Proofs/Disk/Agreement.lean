/-
# `StoryScript.Proofs.Disk.Agreement` — the disk and the memory agree

A compilation into a folder that has succeeded is the compilation into memory, written out:

    the report       the same
    a file           what the memory has last under the components of its path
    all the rest     as before, but for directories above the files

A memory tells files apart by the components of their paths, and a disk by where they lead,
which comes to the same for paths without dots, below whatever root.  With no two dots in the
root either, what is made on the way to a file lies above it.

The report and the files follow from the script and the settings.  So they do not depend on
what else was on the disk, and a second run finds everything as it would leave it.
-/
import Mathlib.Data.List.Find
import StoryScript.Proofs.Disk.Script
import StoryScript.Proofs.Disk.Written

namespace StoryScript

namespace Disk

variable {d d' : Disk} {cfg : Config} {root input path : Path} {r : Report} {s : Session Folder}
  {files : List (Path × Text)} {code : Text}

/-! ## What a run has written -/

theorem eq_report_of_compileFile_eq_ok (hok : d.compileFile cfg root input = (.ok r, s)) :
    r = s.report := by
  rcases compileFile_cases d cfg root input with ⟨place, bytes, hlocate⟩ | hsame
  · rw [compileFile_of_locate hlocate] at hok
    exact Session.eq_report_of_finishAfter_eq_ok hok
  · rw [hsame] at hok
    exact eq_report_of_compileOpened_eq_ok hok

/-- A run into a folder that has succeeded, and has not written over its script, has put into
the folder what the same run puts into a memory, and differs from it in nothing else. -/
theorem exists_replayed_of_compileFile_eq_ok (hok : d.compileFile cfg root input = (.ok r, s))
    (hclear : ∀ p ∈ r.files, d.placeOf (root.join p) ≠ d.placeOf input) :
    ∃ t, compileOpened cfg input (d.openSource input) ({} : Memory) = (.ok r, t) ∧
      t.sink.files.map (·.1) = r.files ∧
      Sink.writeAll (⟨root, d⟩ : Folder) t.sink.files = (.ok (), s.sink) ∧
      s = { t with sink := s.sink } := by
  have hfiles : (d.compileFile cfg root input).2.progress.files = r.files := by
    rw [hok, eq_report_of_compileFile_eq_ok hok]
    rfl
  rw [compileFile_eq_compileOpened (hfiles ▸ hclear)] at hok
  rcases compileOpened_replayed cfg input (d.openSource input) (⟨root, d⟩ : Folder) with
    ⟨f, hwrite, hsame⟩ | ⟨failure, s', -, hrefused⟩
  · rcases hmemory : compileOpened cfg input (d.openSource input) ({} : Memory) with ⟨result, t⟩
    rw [hok, hmemory] at hsame
    rw [hmemory] at hwrite
    cases hsame
    exact ⟨t, rfl, paths_of_compileOpened_eq_ok hmemory, hwrite, rfl⟩
  · rw [hok] at hrefused
    cases hrefused

theorem exists_locate_of_compileFile_eq_ok (hok : d.compileFile cfg root input = (.ok r, s)) :
    ∃ bytes, d.locate input = .ok (d.placeOf input, .file bytes) := by
  rcases hlocate : d.locate input with cause | ⟨place, bytes | _⟩
  · rw [compileFile, hlocate, openSource, find, hlocate] at hok
    cases hok
  · rw [eq_placeOf_of_locate hlocate]
    exact ⟨bytes, rfl⟩
  · rw [compileFile, hlocate, openSource, find, hlocate] at hok
    cases hok

theorem Wrote.readFile (h : Wrote root files d d') (hpath : path ∈ files.map (·.1))
    (hcode : d.written? root files (d.placeOf (root.join path)) = some code) :
    d'.readFile (root.join path) = .ok code.encode := by
  have hfile := h.contents _ code hcode
  rw [← placeOf_congr h.grown.workDir] at hfile
  exact readFile_of_locate ((h.holds path hpath).takes.locate hfile)

/-- A memory has under a plain path what was written last to its place on the disk. -/
theorem get?_eq_written? (d : Disk) (root : Path) (hplain : ∀ p ∈ files.map (·.1), p.IsPlain)
    (hpath : path.IsPlain) :
    (⟨files⟩ : Memory).get? path = d.written? root files (d.placeOf (root.join path)) := by
  rw [Memory.get?, written?]
  congr 1
  refine List.find?_congr fun file hfile => ?_
  have hfile : file.1.IsPlain := hplain file.1 (List.mem_map_of_mem (List.mem_reverse.mp hfile))
  have hsame : d.placeOf (root.join file.1) = d.placeOf (root.join path) ↔
      file.1.components = path.components := placeOf_join_inj hfile hpath
  rw [Bool.eq_iff_iff, beq_iff_eq, beq_iff_eq, hsame]

theorem Wrote.exists_get?_readFile (h : Wrote root files d d')
    (hplain : ∀ p ∈ files.map (·.1), p.IsPlain) (hpath : path ∈ files.map (·.1)) :
    ∃ code, (⟨files⟩ : Memory).get? path = some code ∧
      d'.readFile (root.join path) = .ok code.encode := by
  obtain ⟨code, hcode⟩ : ∃ code, d.written? root files (d.placeOf (root.join path)) = some code :=
    exists_written? hpath
  refine ⟨code, ?_, h.readFile hpath hcode⟩
  rw [get?_eq_written? d root hplain (hplain path hpath), hcode]

/-! ## What a run has left alone -/

theorem Wrote.lookup_of_clear (h : Wrote root files d d') {place : Place} {e : Entry}
    (he : d.lookup place = some e)
    (hclear : ∀ p ∈ files.map (·.1), d.placeOf (root.join p) ≠ place) :
    d'.lookup place = some e := by
  rcases h.others place (written?_eq_none_iff.mpr hclear) with hsame | ⟨hnone, -⟩
  · rw [hsame, he]
  · rw [he] at hnone
    cases hnone

theorem Wrote.new_cases (h : Wrote root files d d') (hroot : .up ∉ root.components)
    (hplain : ∀ p ∈ files.map (·.1), p.IsPlain) {place : Place} (hnone : d.lookup place = none)
    (hsome : (d'.lookup place).isSome) :
    (∃ p ∈ files.map (·.1), place = d.placeOf (root.join p)) ∨
      (d'.lookup place = some .dir ∧
        ∃ p ∈ files.map (·.1), place <+: d.placeOf (root.join p)) := by
  by_cases hclear : ∀ p ∈ files.map (·.1), d.placeOf (root.join p) ≠ place
  · rcases h.others place (written?_eq_none_iff.mpr hclear) with
      hsame | ⟨-, hdir, p, hp, q, hne, hq, rfl⟩
    · rw [hsame, hnone] at hsome
      cases hsome
    · refine Or.inr ⟨hdir, p, hp, placeOf_prefix ?_ hne hq⟩
      rw [Path.components_join root (hplain p hp).start_eq_nil]
      intro hup
      rcases List.mem_append.mp hup with hup | hup
      · exact hroot hup
      · cases hplain p hp _ hup
  · simp only [not_forall, not_not] at hclear
    obtain ⟨p, hp, hplace⟩ := hclear
    exact Or.inl ⟨p, hp, hplace.symm⟩

theorem Wrote.openSource (h : Wrote root files d d') {bytes : Bytes}
    (hlocate : d.locate input = .ok (d.placeOf input, .file bytes))
    (hclear : ∀ p ∈ files.map (·.1), d.placeOf (root.join p) ≠ d.placeOf input) :
    d'.openSource input = d.openSource input := by
  obtain ⟨names, hsteps, hwalk, hfile, hwants⟩ := locate_eq_ok_iff.mp hlocate
  have hwalk' := h.grown.walk hwalk
  rw [← base_congr h.grown.workDir] at hwalk'
  have hlocate' : d'.locate input = .ok (d.placeOf input, .file bytes) :=
    locate_eq_ok_iff.mpr ⟨names, hsteps, hwalk', h.lookup_of_clear hfile hclear, hwants⟩
  rw [openSource_of_locate hlocate, openSource_of_locate hlocate']

/-- A second run has the same report, and leaves everything as it is. -/
theorem exists_compileFile_again (hok : d.compileFile cfg root input = (.ok r, s))
    (hclear : ∀ p ∈ r.files, d.placeOf (root.join p) ≠ d.placeOf input) :
    ∃ s', s.sink.disk.compileFile cfg root input = (.ok r, s') ∧
      ∀ place, s'.sink.disk.lookup place = s.sink.disk.lookup place := by
  obtain ⟨t, hmemory, hpaths, hwrite, -⟩ := exists_replayed_of_compileFile_eq_ok hok hclear
  obtain ⟨-, hwrote⟩ := wrote_of_writeAll hwrite
  obtain ⟨bytes, hlocate⟩ := exists_locate_of_compileFile_eq_ok hok
  have hsource := hwrote.openSource hlocate (hpaths ▸ hclear)
  obtain ⟨d'', hwrite', hlookup⟩ := hwrote.again
  have hagain : compileOpened cfg input (s.sink.disk.openSource input)
      (⟨root, s.sink.disk⟩ : Folder) = (.ok r, { t with sink := ⟨root, d''⟩ }) := by
    rcases compileOpened_replayed cfg input (s.sink.disk.openSource input)
      (⟨root, s.sink.disk⟩ : Folder) with ⟨f, htaken, hsame⟩ | ⟨failure, s', hrefused, -⟩
    · rw [hsource, hmemory] at hsame htaken
      rw [hwrite'] at htaken
      cases htaken
      rw [hsource]
      exact hsame
    · rw [hsource, hmemory, hwrite'] at hrefused
      cases hrefused
  refine ⟨_, (compileFile_eq_compileOpened_of_steady ?_).trans hagain, hlookup⟩
  intro p hp
  rw [hagain] at hp
  have hreport := eq_report_of_compileOpened_eq_ok hmemory
  rw [placeOf_congr hwrote.grown.workDir, placeOf_congr hwrote.grown.workDir]
  refine hclear p ?_
  rw [hreport]
  exact hp

/-! ## The agreement -/

/-- **Disk and memory agree.**  A script is compiled from a file into a folder whose root has
no two dots; it succeeds, and its files have plain paths below the root and none goes to the
place of the script.  Then compiling the script into memory has the same report, and the disk
has every file as the memory has it under its path.

Where no file went there is what was there, and nothing is removed.  What is new is a file
that was written or a directory above one.

Another disk, whatever is on it, makes the same report and the same files of the same script.
And a second run has the same report and leaves everything as it is. -/
theorem compileFile_agrees (d : Disk) (cfg : Config) (root input : Path) (r : Report)
    (s : Session Folder) (hroot : .up ∉ root.components)
    (hok : d.compileFile cfg root input = (.ok r, s)) (hplain : ∀ p ∈ r.files, p.IsPlain)
    (hclear : ∀ p ∈ r.files, d.placeOf (root.join p) ≠ d.placeOf input) :
    let after := s.sink.disk
    let target (p : Path) := d.placeOf (root.join p)
    (∃ t, compileOpened cfg input (d.openSource input) ({} : Memory) = (.ok r, t) ∧
      ∀ p ∈ r.files, ∃ code, t.sink.get? p = some code ∧
        after.readFile (root.join p) = .ok code.encode) ∧
    (∀ place e, d.lookup place = some e → (∀ p ∈ r.files, target p ≠ place) →
      after.lookup place = some e) ∧
    d.Extends after ∧
    (∀ place, d.lookup place = none → (after.lookup place).isSome →
      (∃ p ∈ r.files, place = target p) ∨
        (after.lookup place = some .dir ∧ ∃ p ∈ r.files, place <+: target p)) ∧
    (∀ (d' : Disk) r' s', d'.openSource input = d.openSource input →
      d'.compileFile cfg root input = (.ok r', s') →
      (∀ p ∈ r'.files, d'.placeOf (root.join p) ≠ d'.placeOf input) →
      r' = r ∧ ∀ p ∈ r.files,
        s'.sink.disk.readFile (root.join p) = after.readFile (root.join p)) ∧
    ∃ s', after.compileFile cfg root input = (.ok r, s') ∧
      ∀ place, s'.sink.disk.lookup place = after.lookup place := by
  intro after target
  obtain ⟨t, hmemory, hpaths, hwrite, -⟩ := exists_replayed_of_compileFile_eq_ok hok hclear
  obtain ⟨-, hwrote⟩ := wrote_of_writeAll hwrite
  have hplain' : ∀ p ∈ t.sink.files.map (·.1), p.IsPlain := hpaths ▸ hplain
  have hcontents : ∀ p ∈ r.files, ∃ code, t.sink.get? p = some code ∧
      after.readFile (root.join p) = .ok code.encode := by
    intro p hp
    exact hwrote.exists_get?_readFile hplain' (hpaths ▸ hp)
  refine ⟨⟨t, hmemory, hcontents⟩, ?_, hwrote.grown, ?_, ?_, exists_compileFile_again hok hclear⟩
  · intro place e he hplace
    exact hwrote.lookup_of_clear he (hpaths ▸ hplace)
  · intro place hnone hsome
    rw [← hpaths]
    exact hwrote.new_cases hroot hplain' hnone hsome
  · intro d' r' s' hsource hok' hclear'
    obtain ⟨t', hmemory', -, hwrite', -⟩ := exists_replayed_of_compileFile_eq_ok hok' hclear'
    rw [hsource, hmemory] at hmemory'
    cases hmemory'
    obtain ⟨-, hwrote'⟩ := wrote_of_writeAll hwrite'
    refine ⟨rfl, fun p hp => ?_⟩
    obtain ⟨code, hcode, hread⟩ := hcontents p hp
    obtain ⟨code', hcode', hread'⟩ := hwrote'.exists_get?_readFile hplain' (hpaths ▸ hp)
    rw [hread, hread', Option.some.inj (hcode.symm.trans hcode')]

/-- An earlier run has left two files in the folder.  One is written over, the other is of a
scene that is no longer there, and stays. -/
theorem compileFile_agrees_stale_folder :
    let d : Disk := { workDir := ["home".toList], entries :=
      [ (["home".toList], .dir), (["home".toList, "out".toList], .dir),
        (["home".toList, "out".toList, "Dialog.cs".toList], .file (Text.encode "old".toList)),
        (["home".toList, "out".toList, "Night.cs".toList], .file (Text.encode "old".toList)),
        (["home".toList, "story.md".toList],
          .file (Text.encode "# Script\n## Day\nBob: Hi.\n".toList)) ] }
    let root : Path := ⟨"./out".toList⟩
    let input : Path := ⟨"story.md".toList⟩
    .up ∉ root.components ∧ ∃ r s, d.compileFile {} root input = (.ok r, s) ∧
      (∀ p ∈ r.files, p.IsPlain) ∧ (∀ p ∈ r.files, d.placeOf (root.join p) ≠ d.placeOf input) ∧
      s.sink.disk.lookup ["home".toList, "out".toList, "Night.cs".toList] =
        some (.file (Text.encode "old".toList)) ∧
      ∃ s', s.sink.disk.compileFile {} root input = (.ok r, s') ∧
        ∀ place, s'.sink.disk.lookup place = s.sink.disk.lookup place := by
  intro d root input
  let r : Report := ⟨["Day".toList], ["Bob".toList],
    [⟨"Scenes/Day.cs".toList⟩, ⟨"Transition.cs".toList⟩, ⟨"Dialog.cs".toList⟩]⟩
  have hroot : .up ∉ root.components := by decide
  have hreport : (d.compileFile {} root input).1 = .ok r := by decide +kernel
  have hok : d.compileFile {} root input = (.ok r, (d.compileFile {} root input).2) :=
    Prod.ext hreport rfl
  have hplain : ∀ p ∈ r.files, p.IsPlain := by decide
  have hclear : ∀ p ∈ r.files, d.placeOf (root.join p) ≠ d.placeOf input := by decide
  obtain ⟨-, hothers, -, -, -, hagain⟩ :=
    compileFile_agrees d {} root input r _ hroot hok hplain hclear
  refine ⟨hroot, r, _, hok, hplain, hclear, hothers _ _ rfl ?_, hagain⟩
  decide

end Disk

end StoryScript
