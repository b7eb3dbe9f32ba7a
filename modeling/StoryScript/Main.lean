/-
# `StoryScript.Main` — the program on a real disk

The only module with input and output.  It reads what a run needs, computes the
run with a sink that keeps every file, and then writes the files one by one.  If
one cannot be written, the run is computed again with a sink that fails at that
file: what comes before it is the same, so the output tells of what was done.  A
file that is written over the script has the run computed again as well.
-/
import StoryScript.Program

namespace StoryScript.Terminal

/-- The cause that an error of the system stands for. -/
def causeOf (e : IO.Error) : IoCause :=
  match e with
  | .noFileOrDirectory .. => .noSuchFile
  | .alreadyExists .. => .fileExists
  | .inappropriateType _ code _ => if code = 20 then .notDirectory else .isDirectory
  | .invalidArgument _ code _ => if code = 36 then .nameTooLong else .other (toString e).toList
  | e => .other (toString e).toList

/-- Runs an action on a path and keeps what goes wrong as a cause.  The system
takes no path with a NUL in it. -/
def attempt {α : Type} (p : Path) (act : String → IO α) : IO (Except IoCause α) := do
  if '\x00' ∈ p.text then return .error .nulInName
  match ← (act (String.ofList p.text)).toBaseIO with
  | .ok a => return .ok a
  | .error e => return .error (causeOf e)

/-- Reads all bytes of a file. -/
def readBytes (p : Path) : IO (Except IoCause Bytes) := do
  return (← attempt p fun name => IO.FS.readBinFile name).map fun b => b.data.toList

/-- The settings that an invocation names. -/
def readConfig (inv : CommandLine.Invocation) : IO (Except Config.LoadFailure Config) := do
  match inv.config? with
  | none => return .ok {}
  | some path =>
    match ← readBytes path with
    | .error cause => return .error (.unreadable ⟨path, cause⟩)
    | .ok bytes => return Config.ofBytes path bytes

/-- Whether a path denotes a directory. -/
def isDirectory (p : Path) : IO Bool := do
  match ← attempt p fun name => (System.mkFilePath [name]).isDir with
  | .ok answer => return answer
  | .error _ => return false

/-- Makes a directory and the ones above it that are missing. -/
def makeDirs (p : Path) : IO (Except IoCause Unit) := do
  if p.text = [] then return .ok ()
  if ← isDirectory p then return .ok ()
  match ← attempt p fun name => IO.FS.createDir name with
  | .error .noSuchFile =>
    match h : p.parent? with
    | none => return .error .noSuchFile
    | some above =>
      have := Path.length_parent?_lt h
      match ← makeDirs above with
      | .error cause => return .error cause
      | .ok () =>
        match ← attempt p fun name => IO.FS.createDir name with
        | .ok () => return .ok ()
        | .error cause => return if ← isDirectory p then .ok () else .error cause
  | made => return made
termination_by p.text.length

/-- Writes one file below the output directory. -/
def writeBelow (root path : Path) (code : Text) : IO (Except IoFailure Unit) := do
  let target := root.join path
  if let some above := target.parent? then
    if let .error cause ← makeDirs above then
      return .error ⟨above, cause⟩
  match ← attempt target fun name => IO.FS.writeFile name (String.ofList code) with
  | .ok () => return .ok ()
  | .error cause => return .error ⟨target, cause⟩

/-- The path of a file without links, if it is there. -/
def realPath? (p : Path) : IO (Option String) := do
  match ← attempt p fun name => IO.FS.realPath name with
  | .ok real => return some real.toString
  | .error _ => return none

/-- What the script holds once a number of files have been kept: the last of them
that was written over it, or else what it held at first. -/
def scriptAfter (atFirst : Bytes) (overwriting : List Nat) (sink : Planned) : Bytes :=
  match (sink.kept.zipIdx.filter fun f => f.2 ∈ overwriting).getLast? with
  | some ((_, code), _) => Text.encode code
  | none => atFirst

/-- Computes a run, writes its files and gives its output.  When a file has been
written over the script, the run is computed again: up to that file it is the
same, and the rest of the script is what has been written. -/
def perform (inv : CommandLine.Invocation) (filter : LogFilter) : IO Program.Output := do
  let config ← readConfig inv
  let read ← readBytes inv.input
  let script? ← realPath? inv.input
  let opened := read.map fun bytes => (⟨bytes, none⟩ : Source)
  let runWith (plan : Nat → Path → Option IoFailure) (overwriting : List Nat) :
      Program.Output × Planned :=
    let compileInto := fun (cfg : Config) (sink : Planned) => match read with
      | .ok bytes => compileLive cfg inv.input (scriptAfter bytes overwriting) sink
      | .error cause => compileOpened cfg inv.input (.error cause) sink
    Program.run inv filter config opened compileInto { plan }
  let mut overwriting : List Nat := []
  let mut (output, sink) := runWith (fun _ _ => none) overwriting
  let mut done := 0
  while h : done < sink.kept.length do
    let (path, code) := sink.kept[done]
    if let .error failure ← writeBelow inv.outputDir path code then
      return (runWith (fun k _ => if k = done then some failure else none) overwriting).1
    if script?.isSome then
      if (← realPath? (inv.outputDir.join path)) == script? then
        overwriting := overwriting ++ [done]
        (output, sink) := runWith (fun _ _ => none) overwriting
    done := done + 1
  return output

/-- Shows an output and ends with its exit code. -/
def present (output : Program.Output) : IO UInt32 := do
  IO.print (String.ofList output.stdout)
  IO.eprint (String.ofList output.stderr)
  return output.exitCode.toUInt32

/-- A run with the given arguments. -/
def start (args : List Text) : IO UInt32 := do
  match CommandLine.parse args with
  | .error stop => present (Program.stopped stop)
  | .ok inv =>
    let asked? := (← IO.getEnv "RUST_LOG").map String.toList
    let (filter, complaints) := Program.filterOf asked? inv.verbose
    IO.eprint (String.ofList (Program.complaintLines complaints))
    present (← perform inv filter)

end StoryScript.Terminal

def main (args : List String) : IO UInt32 := StoryScript.Terminal.start (args.map String.toList)
