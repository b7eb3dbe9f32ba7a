/-
# `StoryScript.Proofs.Program.DryRun` — a dry run predicts the real run

A dry run and a real one compile the same script with the same settings, into a memory and
into a folder.  A memory refuses nothing, so what the dry run tells is what the real run
would come to if the disk took every file:

    the real run succeeds                    the dry run does; it lists the files, with sizes
    it fails for what it reads               the dry run tells the same, to the letter
    it fails for a file that is refused      the dry run may come to any end

The list is told line by line in `Proofs.Program.Listing`.  The second line is the settings, the
script, and what the script says (`InputFault`).  There is no other failure than these and the
third line (`inputFault_or_refusesFile`).

The dry run is the same invocation with the flag, wherever among the arguments it stands.
Only the real run changes the disk, so it must not write over its script: it would go on
with what it has written then, and the dry run would not.
-/
import StoryScript.Program
import StoryScript.Proofs.CommandLine
import StoryScript.Proofs.Compilation.Blame
import StoryScript.Proofs.Disk.Agreement
import StoryScript.Proofs.Program.Listing

namespace StoryScript

namespace Program

open CommandLine (Invocation)

variable {d : Disk} {asked? : Option Text} {args : List Text} {inv : Invocation} {cfg : Config}

/-! ## Why a run fails -/

/-- The run fails for what it reads, and the text is how the failure is told. -/
inductive InputFault (d : Disk) (inv : Invocation) : Text → Prop
  /-- The settings cannot be loaded. -/
  | settings {f : Config.LoadFailure} : configOn d inv = .error f → InputFault d inv f.chain
  /-- The script cannot be opened. -/
  | unopened {cfg : Config} {cause : IoCause} : configOn d inv = .ok cfg →
      d.openSource inv.input = .error cause →
      InputFault d inv (Failure.io ⟨inv.input, cause⟩).chain
  /-- The run comes to a line of the script that cannot be read. -/
  | unreadable {cfg : Config} {source : Source} {cause : IoCause} : configOn d inv = .ok cfg →
      d.openSource inv.input = .ok source →
      StopsReading cfg source (⟨inv.outputDir, d⟩ : Disk.Folder) cause →
      InputFault d inv (Failure.io ⟨inv.input, cause⟩).chain
  /-- No title starts the script. -/
  | unstarted {cfg : Config} {keyword : Text} {s : Session Disk.Folder} :
      configOn d inv = .ok cfg →
      d.compileFile cfg inv.outputDir inv.input = (.error (.missingEntryPoint keyword), s) →
      InputFault d inv (Failure.missingEntryPoint keyword).chain
  /-- Two headings of the script make the same name. -/
  | repeated {cfg : Config} {name : Text} {s : Session Disk.Folder} : configOn d inv = .ok cfg →
      d.compileFile cfg inv.outputDir inv.input = (.error (.duplicateScene name), s) →
      InputFault d inv (Failure.duplicateScene name).chain

/-- The run fails for the first file that the disk refuses, of those that the script comes
to. -/
def RefusesFile (d : Disk) (inv : Invocation) : Prop :=
  ∃ cfg failure s, configOn d inv = .ok cfg ∧
    d.compileFile cfg inv.outputDir inv.input = (.error (.io failure), s) ∧
    Sink.writeAll (⟨inv.outputDir, d⟩ : Disk.Folder)
      (compileOpened cfg inv.input (d.openSource inv.input) ({} : Memory)).2.sink.files =
        (.error failure, s.sink)

/-- No file that a real run has written has gone to the place of the script. -/
def SparesInput (d : Disk) (inv : Invocation) : Prop :=
  ∀ cfg, configOn d inv = .ok cfg →
    ∀ p ∈ (d.compileFile cfg inv.outputDir inv.input).2.progress.files,
      d.placeOf (inv.outputDir.join p) ≠ d.placeOf inv.input

/-- A real run that spares its script is the compilation into memory, replayed. -/
theorem SparesInput.replayed (h : SparesInput d inv) (hcfg : configOn d inv = .ok cfg) :
    let whole := compileOpened cfg inv.input (d.openSource inv.input) ({} : Memory)
    (∃ f, Sink.writeAll (⟨inv.outputDir, d⟩ : Disk.Folder) whole.2.sink.files = (.ok (), f) ∧
      d.compileFile cfg inv.outputDir inv.input = (whole.1, { whole.2 with sink := f })) ∨
    ∃ failure s, Sink.writeAll (⟨inv.outputDir, d⟩ : Disk.Folder) whole.2.sink.files =
        (.error failure, s.sink) ∧
      d.compileFile cfg inv.outputDir inv.input = (.error (.io failure), s) := by
  rw [Disk.compileFile_eq_compileOpened (h cfg hcfg)]
  exact compileOpened_replayed cfg inv.input _ _

theorem SparesInput.memory_of_error (h : SparesInput d inv) (hcfg : configOn d inv = .ok cfg)
    {f : Failure} {s : Session Disk.Folder}
    (hfailed : d.compileFile cfg inv.outputDir inv.input = (.error f, s))
    (hio : ∀ failure, f ≠ .io failure) :
    ∃ m, compileOpened cfg inv.input (d.openSource inv.input) ({} : Memory) =
      (.error f, s.withSink m) := by
  rcases h.replayed hcfg with ⟨folder, -, hsame⟩ | ⟨failure, s', -, hrefused⟩
  · rw [hfailed] at hsame
    generalize compileOpened cfg inv.input (d.openSource inv.input) ({} : Memory) = whole at hsame
    obtain ⟨result, t⟩ := whole
    cases hsame
    exact ⟨t.sink, rfl⟩
  · rw [hfailed] at hrefused
    cases hrefused
    exact absurd rfl (hio failure)

/-- **A run that fails has something wrong to read, or is refused a file.** -/
theorem inputFault_or_refusesFile (h : SparesInput d inv) (hcfg : configOn d inv = .ok cfg)
    {f : Failure} {s : Session Disk.Folder}
    (hfailed : d.compileFile cfg inv.outputDir inv.input = (.error f, s)) :
    (∃ chain, InputFault d inv chain) ∨ RefusesFile d inv := by
  rcases h.replayed hcfg with ⟨folder, hwrite, hsame⟩ | ⟨failure, s', hwrite, hrefused⟩
  · left
    cases hopen : d.openSource inv.input with
    | error cause => exact ⟨_, .unopened hcfg hopen⟩
    | ok source =>
        rw [hopen] at hwrite hsame
        rcases hmemory : compile cfg inv.input source ({} : Memory) with ⟨result, t⟩
        rw [hfailed, compileOpened, hmemory] at hsame
        cases hsame
        rcases compile_memory_fails hmemory with rfl | ⟨name, rfl⟩ | ⟨cause, hstops, -⟩
        · exact ⟨_, .unstarted hcfg hfailed⟩
        · exact ⟨_, .repeated hcfg hfailed⟩
        · exact ⟨_, .unreadable hcfg hopen (hstops.of_memory hwrite)⟩
  · exact Or.inr ⟨cfg, failure, s', hcfg, hrefused, hwrite⟩

/-- With something wrong to read, the compilation into memory fails as the one into the folder
does, and has the same log. -/
theorem InputFault.compiled {chain : Text} (h : InputFault d inv chain)
    (hspares : SparesInput d inv) :
    (∃ f, configOn d inv = .error f ∧ f.chain = chain) ∨
      ∃ cfg f s m, configOn d inv = .ok cfg ∧ f.chain = chain ∧
        d.compileFile cfg inv.outputDir inv.input = (.error f, s) ∧
        compileOpened cfg inv.input (d.openSource inv.input) ({} : Memory) =
          (.error f, s.withSink m) := by
  cases h with
  | @settings f hload => exact Or.inl ⟨f, hload, rfl⟩
  | @unopened cfg cause hcfg hopen =>
      refine Or.inr ⟨cfg, _, { sink := ⟨inv.outputDir, d⟩ }, {}, hcfg, rfl, ?_, ?_⟩
      · rw [Disk.compileFile_eq_compileOpened (hspares cfg hcfg), hopen, compileOpened]
      · rw [hopen]
        rfl
  | @unreadable cfg source cause hcfg hopen hstops =>
      obtain ⟨s, m, hfolder, hmemory⟩ := hstops.memory inv.input
      refine Or.inr ⟨cfg, _, s, m, hcfg, rfl, ?_, ?_⟩
      · rw [Disk.compileFile_eq_compileOpened (hspares cfg hcfg), hopen, compileOpened, hfolder]
      · rw [hopen, compileOpened, hmemory]
  | @unstarted cfg keyword s hcfg hfailed =>
      obtain ⟨m, hmemory⟩ := hspares.memory_of_error hcfg hfailed nofun
      exact Or.inr ⟨cfg, _, s, m, hcfg, rfl, hfailed, hmemory⟩
  | @repeated cfg name s hcfg hfailed =>
      obtain ⟨m, hmemory⟩ := hspares.memory_of_error hcfg hfailed nofun
      exact Or.inr ⟨cfg, _, s, m, hcfg, rfl, hfailed, hmemory⟩

/-! ## What a run tells -/

/-- The output of a run, with the complaints about the filter in front of its errors. -/
def told (asked? : Option Text) (inv : Invocation) (run : LogFilter → Output) : Output :=
  let (filter, complaints) := filterOf asked? inv.verbose
  { run filter with stderr := complaintLines complaints ++ (run filter).stderr }

theorem runOn_of_settings (hparse : CommandLine.parse args = .ok inv) {f : Config.LoadFailure}
    (hload : configOn d inv = .error f) :
    runOn d asked? args = (told asked? inv fun _ => ⟨1, [], failureLine f.chain⟩, d) := by
  simp only [runOn, hparse, hload, run, told]

theorem runOn_real (hparse : CommandLine.parse args = .ok inv) (hreal : inv.dryRun = false)
    (hcfg : configOn d inv = .ok cfg) :
    let outcome := d.compileFile cfg inv.outputDir inv.input
    runOn d asked? args = (told asked? inv fun filter =>
      conclude (banner inv cfg) filter (fun _ => destination inv.outputDir) outcome,
      outcome.2.sink.disk) := by
  simp only [runOn, hparse, hcfg, run, hreal, Bool.false_eq_true, if_false, told]

theorem runOn_dry (hparse : CommandLine.parse args = .ok { inv with dryRun := true })
    (hcfg : configOn d inv = .ok cfg) :
    runOn d asked? args = (told asked? inv fun filter =>
      conclude (banner inv cfg) filter (dryListing inv.outputDir)
        (compileOpened cfg inv.input (d.openSource inv.input) ({} : Memory)), d) := by
  have hcfg' : configOn d { inv with dryRun := true } = .ok cfg := hcfg
  simp only [runOn, hparse, hcfg', run, if_true, told]
  rfl

theorem disk_runOn_dry (hparse : CommandLine.parse args = .ok { inv with dryRun := true }) :
    (runOn d asked? args).2 = d := by
  cases hcfg : configOn d inv with
  | error f => exact congrArg Prod.snd (runOn_of_settings hparse hcfg)
  | ok cfg => exact congrArg Prod.snd (runOn_dry hparse hcfg)

theorem failureLine_suffix_stderr_told {σ : Type} (asked? : Option Text) (inv : Invocation)
    (head : Text) (ending : σ → Text) (f : Failure) (s : Session σ) :
    failureLine f.chain <:+
      (told asked? inv fun filter => conclude head filter ending (.error f, s)).stderr := by
  let filter := (filterOf asked? inv.verbose).1
  have hlog : failureLine f.chain <:+ shownLog filter s.log ++ failureLine f.chain :=
    List.suffix_append _ _
  exact hlog.trans (List.suffix_append _ _)

/-! ## A run that succeeds -/

/-- A real run with the settings `cfg` has come to the report `r` and to the disk `after`, and
`written` are the files that it has written, one after the other. -/
structure Delivers (d : Disk) (inv : Invocation) (cfg : Config) (r : Report)
    (written : List (Path × Text)) (after : Disk) : Prop where
  settings : configOn d inv = .ok cfg
  paths : written.map (·.1) = r.files
  compiled : ∃ s, d.compileFile cfg inv.outputDir inv.input = (.ok r, s) ∧ s.sink.disk = after ∧
    compileOpened cfg inv.input (d.openSource inv.input)
      (⟨⟨inv.outputDir, d⟩, []⟩ : Recorded Disk.Folder) =
        (.ok r, { s with sink := ⟨s.sink, written⟩ })

theorem exists_compiled_of_exitCode (hparse : CommandLine.parse args = .ok inv)
    (hreal : inv.dryRun = false) (hzero : (runOn d asked? args).1.exitCode = 0) :
    ∃ cfg r s, configOn d inv = .ok cfg ∧
      d.compileFile cfg inv.outputDir inv.input = (.ok r, s) := by
  cases hcfg : configOn d inv with
  | error f =>
      rw [runOn_of_settings hparse hcfg] at hzero
      cases hzero
  | ok cfg =>
      rcases hcompile : d.compileFile cfg inv.outputDir inv.input with ⟨f | r, s⟩
      · rw [runOn_real hparse hreal hcfg, hcompile] at hzero
        cases hzero
      · exact ⟨cfg, r, s, rfl, hcompile⟩

/-- What a real run has written is what a dry run has in memory. -/
theorem exists_delivers {r : Report} {s : Session Disk.Folder} (hspares : SparesInput d inv)
    (hcfg : configOn d inv = .ok cfg)
    (hcompile : d.compileFile cfg inv.outputDir inv.input = (.ok r, s)) :
    ∃ written, Delivers d inv cfg r written s.sink.disk ∧
      Disk.Wrote inv.outputDir written d s.sink.disk ∧
      compileOpened cfg inv.input (d.openSource inv.input) ({} : Memory) =
        (.ok r, s.withSink ⟨written⟩) := by
  have hclear : ∀ p ∈ r.files, d.placeOf (inv.outputDir.join p) ≠ d.placeOf inv.input := by
    have hfiles := hspares cfg hcfg
    rw [hcompile] at hfiles
    rw [Disk.eq_report_of_compileFile_eq_ok hcompile]
    exact hfiles
  obtain ⟨t, hmemory, hpaths, hwrite, hsame⟩ :=
    Disk.exists_replayed_of_compileFile_eq_ok hcompile hclear
  have hrecorded := compileOpened_recorded hmemory hwrite
  have ht : t = s.withSink t.sink := by
    rw [hsame]
    rfl
  refine ⟨t.sink.files, ⟨hcfg, hpaths, s, hcompile, rfl, ?_⟩, (Disk.wrote_of_writeAll hwrite).2, ?_⟩
  · rw [hrecorded, ht]
    rfl
  · rw [hmemory]
    exact congrArg _ ht

theorem exists_readFile {root path : Path} {files : List (Path × Text)} {after : Disk}
    (h : Disk.Wrote root files d after) (hpath : path ∈ files.map (·.1)) :
    ∃ code, d.written? root files (d.placeOf (root.join path)) = some code ∧
      after.readFile (root.join path) = .ok code.encode := by
  obtain ⟨code, hcode⟩ : ∃ code, d.written? root files (d.placeOf (root.join path)) = some code :=
    Disk.exists_written? hpath
  exact ⟨code, hcode, h.readFile hpath hcode⟩

/-! ## The prediction -/

section

variable {dryArgs : List Text}

theorem dry_eq_real_of_inputFault {chain : Text} (hparse : CommandLine.parse args = .ok inv)
    (hreal : inv.dryRun = false)
    (hdry : CommandLine.parse dryArgs = .ok { inv with dryRun := true })
    (hspares : SparesInput d inv) (hfault : InputFault d inv chain) :
    let real := runOn d asked? args
    real.1.exitCode = 1 ∧ (runOn d asked? dryArgs).1 = real.1 ∧
      failureLine chain <:+ real.1.stderr := by
  intro real
  rcases hfault.compiled hspares with
    ⟨f, hload, rfl⟩ | ⟨cfg, f, s, m, hcfg, rfl, hfolder, hmemory⟩
  · have hrun : real = _ := runOn_of_settings hparse hload
    rw [runOn_of_settings hdry hload, hrun]
    exact ⟨rfl, rfl, List.suffix_append _ _⟩
  · have hrun : real = _ := runOn_real hparse hreal hcfg
    rw [hfolder] at hrun
    rw [runOn_dry hdry hcfg, hmemory, hrun]
    exact ⟨rfl, rfl, failureLine_suffix_stderr_told asked? inv _ _ f s⟩

theorem dry_of_compiled {r : Report} {s : Session Disk.Folder} {written : List (Path × Text)}
    (hparse : CommandLine.parse args = .ok inv) (hreal : inv.dryRun = false)
    (hdry : CommandLine.parse dryArgs = .ok { inv with dryRun := true })
    (hcfg : configOn d inv = .ok cfg)
    (hcompile : d.compileFile cfg inv.outputDir inv.input = (.ok r, s))
    (hmemory : compileOpened cfg inv.input (d.openSource inv.input) ({} : Memory) =
      (.ok r, s.withSink ⟨written⟩)) :
    let real := runOn d asked? args
    real.2 = s.sink.disk ∧
      real.1.stdout = banner inv cfg ++ Text.unlines (summaryLines r) ++
        destination inv.outputDir ++ success ∧
      ∃ lines, (runOn d asked? dryArgs).1 =
          ⟨0, banner inv cfg ++ Text.unlines (summaryLines r ++
            "📁 Dry run, nothing written. Would generate:".toList :: lines) ++ success,
            real.1.stderr⟩ ∧
        lines.map listed? =
          written.map fun file => some ((inv.outputDir.join file.1).text, file.2.encode.length) := by
  intro real
  have hrun : real = _ := runOn_real hparse hreal hcfg
  rw [hcompile] at hrun
  rw [runOn_dry hdry hcfg, hmemory, hrun, ← summary_eq_unlines]
  refine ⟨rfl, rfl, _, ?_, map_listed?_entryLine inv.outputDir written⟩
  rw [Text.unlines_append, ← summary_eq_unlines, ← dryListing_eq_unlines inv.outputDir ⟨written⟩,
    ← List.append_assoc]
  rfl

theorem fault_of_exitCode_ne_zero (hparse : CommandLine.parse args = .ok inv)
    (hreal : inv.dryRun = false) (hspares : SparesInput d inv)
    (hne : (runOn d asked? args).1.exitCode ≠ 0) :
    (∃ chain, InputFault d inv chain) ∨ RefusesFile d inv := by
  cases hcfg : configOn d inv with
  | error f => exact Or.inl ⟨_, .settings hcfg⟩
  | ok cfg =>
      rcases hcompile : d.compileFile cfg inv.outputDir inv.input with ⟨f | r, s⟩
      · exact inputFault_or_refusesFile hspares hcfg hcompile
      · rw [runOn_real hparse hreal hcfg, hcompile] at hne
        exact absurd rfl hne

end

/-- **A dry run predicts the real run.**  Of the arguments of a real run and the same ones
with the flag, which may stand in front of all, the second make a dry run, which leaves the
disk alone.

If the real run succeeds, so does the dry run.  It has the same summary and the same log, and
after the summary a title and a line for each file that the real run has written: the line
reads as its path below the output directory and the length of its bytes, and the lines stand
in the order of writing.  The text that was written last to the place of a file is what the
disk holds there, so the last of its lines tells its size.

If the real run fails for what it reads, the dry run has the same exit code and the same
output, the line about the failure included.  The only other failure is that of a file that
the disk refuses. -/
theorem dryRun_predicts (d : Disk) (asked? : Option Text) (args : List Text) (inv : Invocation)
    (hparse : CommandLine.parse args = .ok inv) (hreal : inv.dryRun = false)
    (hspares : SparesInput d inv) :
    CommandLine.parse ("--dry-run".toList :: args) = .ok { inv with dryRun := true } ∧
    ∀ dryArgs, CommandLine.parse dryArgs = .ok { inv with dryRun := true } →
      let real := runOn d asked? args
      let dry := runOn d asked? dryArgs
      dry.2 = d ∧
      (real.1.exitCode = 0 → ∃ cfg r written, Delivers d inv cfg r written real.2 ∧
        real.1.stdout = banner inv cfg ++ Text.unlines (summaryLines r) ++
          destination inv.outputDir ++ success ∧
        (∃ lines, dry.1 =
            ⟨0, banner inv cfg ++ Text.unlines (summaryLines r ++
              "📁 Dry run, nothing written. Would generate:".toList :: lines) ++ success,
              real.1.stderr⟩ ∧
          lines.map listed? =
            written.map fun file =>
              some ((inv.outputDir.join file.1).text, file.2.encode.length)) ∧
        ∀ p ∈ r.files, ∃ code,
          d.written? inv.outputDir written (d.placeOf (inv.outputDir.join p)) = some code ∧
          real.2.readFile (inv.outputDir.join p) = .ok code.encode) ∧
      (∀ chain, InputFault d inv chain →
        real.1.exitCode = 1 ∧ dry.1 = real.1 ∧
          "[ERROR] ".toList ++ chain ++ "\n".toList <:+ real.1.stderr) ∧
      (real.1.exitCode ≠ 0 → (∃ chain, InputFault d inv chain) ∨ RefusesFile d inv) := by
  refine ⟨CommandLine.parse_dryRun hparse hreal, fun dryArgs hdry => ?_⟩
  intro real dry
  refine ⟨disk_runOn_dry hdry, ?_, ?_, ?_⟩
  · intro hzero
    obtain ⟨cfg, r, s, hcfg, hcompile⟩ := exists_compiled_of_exitCode hparse hreal hzero
    obtain ⟨written, hdelivers, hwrote, hmemory⟩ := exists_delivers hspares hcfg hcompile
    obtain ⟨hdisk, hstdout, hsame⟩ := dry_of_compiled hparse hreal hdry hcfg hcompile hmemory
    have hdisk : real.2 = s.sink.disk := hdisk
    refine ⟨cfg, r, written, hdisk ▸ hdelivers, hstdout, hsame, ?_⟩
    intro p hp
    rw [hdisk]
    exact exists_readFile hwrote (hdelivers.paths ▸ hp)
  · intro chain hfault
    exact dry_eq_real_of_inputFault hparse hreal hdry hspares hfault
  · intro hne
    exact fault_of_exitCode_ne_zero hparse hreal hspares hne

/-- The settings put the dialog helper over the transition helper, so one file is listed twice,
and its size on the disk is the second one.  Of a script that does not start, both runs tell the
same. -/
theorem dryRun_predicts_helper_over_helper :
    let args := ["-cset.json", "-oout", "story.md"].map String.toList
    let dryArgs := "--dry-run".toList :: args
    let inv : Invocation :=
      { input := ⟨"story.md".toList⟩
        outputDir := ⟨"out".toList⟩
        config? := some ⟨"set.json".toList⟩ }
    let disk (script : String) : Disk := { entries :=
      [(["set.json".toList],
          .file (Text.encode "\x7b\"dialog_file\": \"Transition.cs\"\x7d".toList)),
        (["story.md".toList], .file (Text.encode script.toList))] }
    let d := disk "# Script\n## Day\nÈve: Hi.\n"
    let empty := disk "## Day\n"
    let real := runOn d none args
    let dry := runOn d none dryArgs
    CommandLine.parse args = .ok inv ∧ inv.dryRun = false ∧ SparesInput d inv ∧
      SparesInput empty inv ∧ real.1.exitCode = 0 ∧
      (∃ cfg r written, Delivers d inv cfg r written real.2 ∧
        real.1.stdout = banner inv cfg ++ Text.unlines (summaryLines r) ++
          destination inv.outputDir ++ success ∧
        ∃ lines, dry.1 =
            ⟨0, banner inv cfg ++ Text.unlines (summaryLines r ++
              "📁 Dry run, nothing written. Would generate:".toList :: lines) ++ success,
              real.1.stderr⟩ ∧
          lines.map listed? =
            written.map fun file =>
              some ((inv.outputDir.join file.1).text, file.2.encode.length)) ∧
      (Text.splitAt '\n' dry.1.stdout).filterMap listed? =
        [("out/Scenes/Day.cs".toList, 228), ("out/Transition.cs".toList, 322),
          ("out/Transition.cs".toList, 67)] ∧
      (real.2.readFile ⟨"out/Transition.cs".toList⟩).map List.length = .ok 67 ∧
      (runOn empty none dryArgs).1 = (runOn empty none args).1 ∧
      "[ERROR] ".toList ++ (Failure.missingEntryPoint "Script".toList).chain ++ "\n".toList <:+
        (runOn empty none args).1.stderr := by
  intro args dryArgs inv disk d empty real dry
  let cfg : Config := { dialogFile := ⟨"Transition.cs".toList⟩ }
  have hparse : CommandLine.parse args = .ok inv := by decide +kernel
  have hload : configOn d inv = .ok cfg := by decide +kernel
  have hload' : configOn empty inv = .ok cfg := hload
  have hspares : SparesInput d inv := by
    intro cfg' hcfg
    cases hload.symm.trans hcfg
    decide +kernel
  have hspares' : SparesInput empty inv := by
    intro cfg' hcfg
    cases hload'.symm.trans hcfg
    decide +kernel
  have hmissing : (empty.compileFile cfg inv.outputDir inv.input).1 =
      .error (.missingEntryPoint "Script".toList) := by decide +kernel
  have hfault : InputFault empty inv (Failure.missingEntryPoint "Script".toList).chain :=
    .unstarted hload' (Prod.ext hmissing rfl)
  have hzero : real.1.exitCode = 0 := by decide +kernel
  obtain ⟨hdry, hpredicts⟩ := dryRun_predicts d none args inv hparse rfl hspares
  obtain ⟨-, hpredicts'⟩ := dryRun_predicts empty none args inv hparse rfl hspares'
  obtain ⟨-, hsuccess, -, -⟩ := hpredicts _ hdry
  obtain ⟨cfg, r, written, hdelivers, hstdout, hlisted, -⟩ := hsuccess hzero
  obtain ⟨-, -, hfails, -⟩ := hpredicts' _ hdry
  obtain ⟨-, hsame, htold⟩ := hfails _ hfault
  have hentries : (Text.splitAt '\n' dry.1.stdout).filterMap listed? =
      [("out/Scenes/Day.cs".toList, 228), ("out/Transition.cs".toList, 322),
        ("out/Transition.cs".toList, 67)] := by decide +kernel
  have hsize : (real.2.readFile ⟨"out/Transition.cs".toList⟩).map List.length = .ok 67 := by
    decide +kernel
  exact ⟨hparse, rfl, hspares, hspares', hzero, ⟨cfg, r, written, hdelivers, hstdout, hlisted⟩,
    hentries, hsize, hsame, htold⟩

end Program

end StoryScript
