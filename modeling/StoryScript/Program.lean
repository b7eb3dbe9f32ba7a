/-
# `StoryScript.Program` — a run of the program, from arguments to output

The program compiles one script and tells about it: on its standard output a
banner, the settings if it is to be verbose, and a summary; on its error output
the log, as far as the filter shows it, and the failure that ended the run.  A
dry run compiles into memory, and lists the files instead of writing them.

A run is a function of what was read — the settings and, for a dry run, the
script — and of what compiles into the sink, so it can be made on a disk that is
a value as well as on a real one.
-/
import StoryScript.CommandLine
import StoryScript.Config.Reading
import StoryScript.Disk.Folder
import StoryScript.LogFilter

namespace StoryScript.Program

open CommandLine (Invocation Stop)

/-- What a run leaves behind for its caller. -/
structure Output where
  exitCode : Nat
  stdout : Text := []
  stderr : Text := []
deriving DecidableEq, Repr

/-! ## Texts -/

/-- A setting with its name, as it is shown. -/
def settingText (cfg : Config) (s : Setting) : Text :=
  s.key ++ ": ".toList ++ match s.wanted with
    | .path => Text.quotedPath (cfg.get s)
    | _ => Text.quoted (cfg.get s)

/-- All settings, as they are shown. -/
def settingsText (cfg : Config) : Text :=
  let shown := Setting.all.map (settingText cfg)
  "Config \x7b ".toList ++ List.intercalate ", ".toList shown ++ " \x7d".toList

/-- What is told before the compilation. -/
def banner (inv : Invocation) (cfg : Config) : Text :=
  "Tale Script Compiler v".toList ++ CommandLine.version ++ "\n".toList ++
  "📜 Compiling script ".toList ++ inv.input.text ++ "\n\n".toList ++
  (if inv.verbose then "⚙️ Configuration: ".toList ++ settingsText cfg ++ "\n".toList else [])

/-- What a compilation has come to. -/
def summary (r : Report) : Text :=
  "---\n🎬 Scenes: ".toList ++ Text.digitsOf r.scenes.length ++ "\n".toList ++
  (r.scenes.flatMap fun scene => "   ".toList ++ scene ++ "\n".toList) ++
  "🗣️ Characters: ".toList ++ List.intercalate ", ".toList r.speakers ++ "\n".toList ++
  "📄 Files: ".toList ++ Text.digitsOf r.files.length ++ "\n".toList

/-- The files that a dry run would have written, with their sizes. -/
def dryListing (outputDir : Path) (m : Memory) : Text :=
  "📁 Dry run, nothing written. Would generate:\n".toList ++
  m.files.flatMap fun (path, code) =>
    "   ".toList ++ (outputDir.join path).text ++ " (".toList ++
      Text.digitsOf (Text.utf8Length code) ++ " bytes)\n".toList

/-- Where the files have gone. -/
def destination (outputDir : Path) : Text :=
  "📁 Output: ".toList ++ outputDir.text ++ "\n".toList

/-- The end of a successful run. -/
def success : Text := "\n✅ Compiled successfully\n".toList

/-- The line that tells of a failure. -/
def failureLine (chain : Text) : Text := "[ERROR] ".toList ++ chain ++ "\n".toList

/-! ## The log -/

/-- The filter that is in force, and complaints about the one that was asked
for: without any, the log is shown for debugging if the run is verbose. -/
def filterOf (asked? : Option Text) (verbose : Bool) : LogFilter × List Text :=
  match asked? with
  | some asked => LogFilter.read asked
  | none => LogFilter.read (if verbose then "debug".toList else "info".toList)

/-- The entries that are shown, one after the other. -/
def shownLog (filter : LogFilter) (log : List Event) : Text :=
  (log.filter filter.shows).flatMap Event.line

/-- What is told of a filter that could not be read as a whole. -/
def complaintLines (complaints : List Text) : Text :=
  complaints.flatMap fun c => "warning: ".toList ++ c ++ ", ignoring it\n".toList

/-! ## Runs -/

/-- The output of a compilation: `ending` is what follows the summary. -/
def conclude {σ : Type} (head : Text) (filter : LogFilter) (ending : σ → Text)
    (outcome : Outcome σ Report) : Output :=
  let (result, s) := outcome
  let log := shownLog filter s.log
  match result with
  | .ok r => ⟨0, head ++ summary r ++ ending s.sink ++ success, log⟩
  | .error f => ⟨1, head, log ++ failureLine f.chain⟩

/-- A run with the settings and the script that were read.  A dry run compiles the
script and leaves the sink alone; any other is made by `compileInto`. -/
def run {σ : Type} (inv : Invocation) (filter : LogFilter)
    (config : Except Config.LoadFailure Config) (opened : Except IoCause Source)
    (compileInto : Config → σ → Outcome σ Report) (sink : σ) : Output × σ :=
  match config with
  | .error f => (⟨1, [], failureLine f.chain⟩, sink)
  | .ok cfg =>
    let head := banner inv cfg
    if inv.dryRun then
      let outcome := compileOpened cfg inv.input opened ({} : Memory)
      (conclude head filter (dryListing inv.outputDir) outcome, sink)
    else
      let outcome := compileInto cfg sink
      (conclude head filter (fun _ => destination inv.outputDir) outcome, outcome.2.sink)

/-- The output of a run whose arguments do not ask for a compilation. -/
def stopped : Stop → Output
  | .help => ⟨0, CommandLine.helpText, []⟩
  | .version => ⟨0, CommandLine.versionText, []⟩
  | .refused e => ⟨1, [], e.text⟩

/-- The settings that an invocation names. -/
def configOn (d : Disk) (inv : Invocation) : Except Config.LoadFailure Config :=
  match inv.config? with
  | none => .ok {}
  | some path =>
    match d.readFile path with
    | .error cause => .error (.unreadable ⟨path, cause⟩)
    | .ok bytes => Config.ofBytes path bytes

/-- A run in the working directory of a disk, and the disk it leaves. -/
def runOn (d : Disk) (asked? : Option Text) (args : List Text) : Output × Disk :=
  match CommandLine.parse args with
  | .error stop => (stopped stop, d)
  | .ok inv =>
    let (filter, complaints) := filterOf asked? inv.verbose
    let compileInto := fun cfg (f : Disk.Folder) => f.disk.compileFile cfg f.root inv.input
    let (output, folder) :=
      run inv filter (configOn d inv) (d.openSource inv.input) compileInto ⟨inv.outputDir, d⟩
    ({ output with stderr := complaintLines complaints ++ output.stderr }, folder.disk)

end StoryScript.Program
