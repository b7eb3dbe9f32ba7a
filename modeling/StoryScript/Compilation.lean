/-
# `StoryScript.Compilation` — one pass over a script

A script is compiled in one pass, line by line.  Three phases follow each other:

    searching   until the level-1 heading that the settings name
    inScript    until the next level-1 heading
    ended       nothing counts any more

In the script a level-2 heading closes the scene before it and begins one of its
own, and the lines after it add their statements to that scene.  A scene is
written when it is closed, not before; the helpers are written at the very end,
when all speakers are known.  A heading without a usable name begins no scene,
so the lines under it have nowhere to go and are dropped.

What a line did is a pair of a result and a session, also when it failed: a
caller may go on after a failure, and then works with what the failed line left
behind.
-/
import StoryScript.Code
import StoryScript.Config
import StoryScript.Cursor
import StoryScript.Event
import StoryScript.Roster
import StoryScript.Scene.Name
import StoryScript.Sink
import StoryScript.Source

namespace StoryScript

/-- How far the script has come. -/
inductive Phase where
  | searching
  | inScript
  | ended
deriving DecidableEq, Repr

/-- The scene that is being put together. -/
structure Draft where
  name : Text
  statements : List Statement
deriving DecidableEq, Repr

/-- The class of the scene, were it closed now. -/
def Draft.code (d : Draft) : Text := Code.sceneClass d.name d.statements

/-- What the lines so far have amounted to. -/
structure Progress where
  phase : Phase := .searching
  /-- The open scene; at most one is open at a time. -/
  draft : Option Draft := none
  /-- The scenes begun so far. -/
  scenes : Roster := ∅
  /-- The speakers heard in them. -/
  speakers : Roster := ∅
  /-- The files that the sink has taken. -/
  files : List Path := []

/-- A compilation under way, with the sink it writes to and its log. -/
structure Session (σ : Type) where
  progress : Progress := {}
  sink : σ
  log : List Event := []

/-- The summary of a successful compilation. -/
structure Report where
  scenes : List Text
  speakers : List Text
  files : List Path
deriving DecidableEq, Repr

/-- What an action on a session results in, and the session it leaves. -/
abbrev Outcome (σ α : Type) := Except Failure α × Session σ

namespace Session

variable {σ : Type}

/-- The session with one more entry in its log. -/
def note (s : Session σ) (e : Event) : Session σ := { s with log := s.log ++ [e] }

/-- Writes one file and, if the sink takes it, lists it. -/
def write [Sink σ] (s : Session σ) (path : Path) (code : Text) : Outcome σ Unit :=
  match Sink.write s.sink path code with
  | (.ok (), sink) =>
    (.ok (), { s with sink, progress.files := s.progress.files ++ [path] })
  | (.error failure, sink) => (.error (.io failure), { s with sink })

/-- Closes the open scene, if there is one, and writes its class.  The scene is
gone even if the write fails. -/
def closeScene [Sink σ] (cfg : Config) (s : Session σ) : Outcome σ Unit :=
  match s.progress.draft with
  | none => (.ok (), s)
  | some d => { s with progress.draft := none }.write (cfg.scenePath d.name) d.code

/-- Begins the scene with this heading, none being open. -/
def beginScene (cfg : Config) (heading : Text) (s : Session σ) : Outcome σ Unit :=
  match Scene.name cfg.sceneToken heading with
  | [] => (.ok (), s.note (.sceneSkipped heading))
  | name =>
    match s.progress.scenes.register name with
    | (.error failure, scenes) =>
      (.error failure, { s.note (.sceneNamed name) with progress.scenes := scenes })
    | (.ok (), scenes) =>
      (.ok (), { s.note (.sceneNamed name) with
        progress.scenes := scenes
        progress.draft := some ⟨name, []⟩ })

/-- Closes the scene before a level-2 heading and begins the next. -/
def openScene [Sink σ] (cfg : Config) (heading : Text) (s : Session σ) : Outcome σ Unit :=
  match (s.note (.sceneHeading heading)).closeScene cfg with
  | (.ok (), s) => s.beginScene cfg heading
  | (.error failure, s) => (.error failure, s)

/-- Notes that `speaker` is heard, for the first time or again. -/
def hear (speaker : Text) (s : Session σ) : Session σ :=
  match s.progress.speakers.insert speaker with
  | (true, speakers) =>
    { s.note (.newSpeaker speaker) with progress.speakers := speakers }
  | (false, speakers) => { s with progress.speakers := speakers }

/-- What the log says about a statement of the scene. -/
def traceOf (scene : Text) : Statement → Event
  | .say d => .spoken scene d.speaker
  | .pause => .paused scene
  | .comment _ => .commented scene

/-- Adds a statement to the open scene; without one it is dropped. -/
def addStatement (statement : Statement) (s : Session σ) : Session σ :=
  match s.progress.draft with
  | none => s
  | some d =>
    let heard := match statement with
      | .say dialogue => s.hear dialogue.speaker
      | _ => s
    { heard.note (traceOf d.name statement) with
      progress.draft := some { d with statements := d.statements ++ [statement] } }

/-- Takes in one line of the script. -/
def feed [Sink σ] (cfg : Config) (s : Session σ) (line : Text) : Outcome σ Unit :=
  match s.progress.phase, Line.ofText line with
  | .searching, .title heading =>
    if cfg.isEntryPoint heading then
      (.ok (), { s.note .entryFound with progress.phase := .inScript })
    else (.ok (), s)
  | .inScript, .title heading =>
    (.ok (), { s.note (.scriptEnds heading) with progress.phase := .ended })
  | .inScript, .scene heading => s.openScene cfg heading
  | .inScript, .statement statement => (.ok (), s.addStatement statement)
  | _, _ => (.ok (), s)

/-- Whether a level-1 heading has ended the script. -/
def isDone (s : Session σ) : Bool := s.progress.phase == .ended

/-- The files and names that a session has come to. -/
def report (s : Session σ) : Report :=
  ⟨s.progress.scenes.names, s.progress.speakers.names, s.progress.files⟩

/-- Writes the two helpers. -/
def writeHelpers [Sink σ] (cfg : Config) (s : Session σ) : Outcome σ Report :=
  match (s.note (.writing cfg.transitionFile)).write cfg.transitionFile Code.transitionClass with
  | (.error failure, s) => (.error failure, s)
  | (.ok (), s) =>
    let speakers := s.progress.speakers.names
    match (s.note (.writing cfg.dialogFile)).write cfg.dialogFile (Code.dialogClass speakers) with
    | (.error failure, s) => (.error failure, s)
    | (.ok (), s) => (.ok s.report, s)

/-- Ends the compilation: the open scene and the helpers are written.  Nothing
is, if the script has not even started. -/
def finish [Sink σ] (cfg : Config) (s : Session σ) : Outcome σ Report :=
  match s.progress.phase with
  | .searching => (.error (.missingEntryPoint cfg.entryPoint), s)
  | _ =>
    match s.closeScene cfg with
    | (.error failure, s) => (.error failure, s)
    | (.ok (), s) => s.writeHelpers cfg

/-- Ends the compilation, unless taking in the lines has failed. -/
def finishAfter [Sink σ] (cfg : Config) : Outcome σ Unit → Outcome σ Report
  | (.error failure, s) => (.error failure, s)
  | (.ok (), s) => s.finish cfg

/-- Takes in lines until the script ends or something fails.  A line that could
not be read is blamed on `origin`. -/
def feedAll [Sink σ] (cfg : Config) (origin : Path) (s : Session σ) :
    List (Except IoCause Text) → Outcome σ Unit
  | [] => (.ok (), s)
  | .error cause :: _ => (.error (.io ⟨origin, cause⟩), s)
  | .ok line :: rest =>
    match s.feed cfg line with
    | (.error failure, s) => (.error failure, s)
    | (.ok (), s) => if s.isDone then (.ok (), s) else s.feedAll cfg origin rest

/-- Reads the source as far as the script goes, and ends the compilation. -/
def run [Sink σ] (cfg : Config) (origin : Path) (source : Source) (s : Session σ) :
    Outcome σ Report :=
  finishAfter cfg (s.feedAll cfg origin (Source.unmarked source.lines))

/-- Takes in the lines of a file that the sink may change, which is read from a
place on, until the script ends or something fails; at most `turns` of them.  In
each turn the file holds what the sink makes of it by then. -/
def feedFrom [Sink σ] (cfg : Config) (origin : Path) (contents : σ → Bytes) :
    Nat → Cursor → Session σ → Outcome σ Unit
  | 0, _, s => (.ok (), s)
  | turns + 1, c, s =>
    match c.nextLine (contents s.sink) with
    | none => (.ok (), s)
    | some (bytes, next) =>
      match Source.readLine bytes with
      | .error cause => (.error (.io ⟨origin, cause⟩), s)
      | .ok line =>
        match s.feed cfg (if c.atStart then Source.unmarkedLine line else line) with
        | (.error failure, s) => (.error failure, s)
        | (.ok (), s) => if s.isDone then (.ok (), s) else feedFrom cfg origin contents turns next s

/-- How many lines are taken in from a file beyond one for each of its bytes.
Only a file that has been changed has more lines than bytes before the change,
and what a compilation writes into one file falls short of this by far. -/
def spareTurns : Nat := 16777216

/-- Reads a file that the sink may change as far as the script goes, and ends the
compilation. -/
def runFrom [Sink σ] (cfg : Config) (origin : Path) (contents : σ → Bytes) (s : Session σ) :
    Outcome σ Report :=
  finishAfter cfg (feedFrom cfg origin contents ((contents s.sink).length + spareTurns) {} s)

end Session

/-- Compiles a source from its beginning. -/
def compile {σ : Type} [Sink σ] (cfg : Config) (origin : Path) (source : Source) (sink : σ) :
    Outcome σ Report :=
  Session.run cfg origin source { sink }

/-- Compiles a source that may not have opened; it fails before it begins then. -/
def compileOpened {σ : Type} [Sink σ] (cfg : Config) (origin : Path)
    (opened : Except IoCause Source) (sink : σ) : Outcome σ Report :=
  match opened with
  | .error cause => (.error (.io ⟨origin, cause⟩), { sink })
  | .ok source => compile cfg origin source sink

/-- Compiles a file that has been opened and that the sink may change: `contents`
tells what the file holds by the state of the sink. -/
def compileLive {σ : Type} [Sink σ] (cfg : Config) (origin : Path) (contents : σ → Bytes)
    (sink : σ) : Outcome σ Report :=
  Session.runFrom cfg origin contents { sink }

/-- The name that a script without a file goes by. -/
def unnamedOrigin : Path := ⟨"<source>".toList⟩

/-- Compiles a script given as text. -/
def compileText {σ : Type} [Sink σ] (cfg : Config) (text : Text) (sink : σ) : Outcome σ Report :=
  compile cfg unnamedOrigin (.ofText text) sink

end StoryScript
