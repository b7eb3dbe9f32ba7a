/-
# `StoryScript.LogFilter` — which entries of the log are shown

A filter is a list of directives, each a target and the level up to which
entries of that target are shown.  A directive's target is the start of the
names it applies to, and a directive without one applies to all; the most
specific one that applies decides.  An entry that none applies to is not shown.

A filter is written as directives between commas, each a level, a target, or a
target and a level with an equals sign between them.  After a slash comes a
pattern that must occur in the message of an entry for it to be shown.
-/
import StoryScript.Event
import StoryScript.Pattern
import StoryScript.Text.Plain

namespace StoryScript

/-- How much is shown, from nothing to everything. -/
inductive Verbosity where
  | off
  | error
  | warn
  | info
  | debug
  | trace
deriving DecidableEq, Repr

namespace Verbosity

/-- All levels, from nothing to everything. -/
def all : List Verbosity := [.off, .error, .warn, .info, .debug, .trace]

/-- The name of a level. -/
def name : Verbosity → Text
  | .off => "off".toList
  | .error => "error".toList
  | .warn => "warn".toList
  | .info => "info".toList
  | .debug => "debug".toList
  | .trace => "trace".toList

/-- The level with a given name, in upper or lower case. -/
def ofName? (t : Text) : Option Verbosity := all.find? (·.name == t.map Char.toLower)

/-- The place of a level in the order. -/
def rank : Verbosity → Nat
  | .off => 0
  | .error => 1
  | .warn => 2
  | .info => 3
  | .debug => 4
  | .trace => 5

/-- The least level at which entries of a severity are shown. -/
def ofSeverity : Severity → Verbosity
  | .warn => .warn
  | .info => .info
  | .debug => .debug

end Verbosity

/-- A level for the targets that start with a name, or for all of them. -/
structure Directive where
  target? : Option Text
  level : Verbosity
deriving DecidableEq, Repr

/-- Directives, and a pattern that occurs in what is shown. -/
structure LogFilter where
  directives : List Directive
  pattern? : Option Pattern := none

namespace LogFilter

/-- The target of every entry that a compilation logs. -/
def target : Text := "talec::transpiler".toList

/-- The directives with one more; it takes the place of an earlier one for the
same target. -/
def add (ds : List Directive) (d : Directive) : List Directive :=
  if ds.any (·.target? == d.target?) then ds.map fun e => if e.target? == d.target? then d else e
  else ds ++ [d]

/-- Reads one directive; what cannot be read is told back. -/
def readDirective (t : Text) : Except Text Directive :=
  match Text.splitAt '=' t with
  | [single] =>
    match Verbosity.ofName? single with
    | some level => .ok ⟨none, level⟩
    | none => .ok ⟨some single, .trace⟩
  | [name, level] =>
    match Text.trim level with
    | [] => .ok ⟨some name, .trace⟩
    | level =>
      match Verbosity.ofName? level with
      | some l => .ok ⟨some name, l⟩
      | none => .error level
  | _ => .error t

/-- What is told about a part of a filter that cannot be read. -/
def complaint (t : Text) : Text := "invalid logging spec '".toList ++ t ++ "'".toList

/-- Reads the directives of a filter one after the other; those that cannot be
read are told about and left out. -/
def readDirectives : List Text → List Directive × List Text → List Directive × List Text
  | [], acc => acc
  | t :: rest, (ds, complaints) =>
    match Text.trim t with
    | [] => readDirectives rest (ds, complaints)
    | t =>
      match readDirective t with
      | .ok d => readDirectives rest (add ds d, complaints)
      | .error bad => readDirectives rest (ds, complaints ++ [complaint bad])

/-- How specific a directive is. -/
def specificity (d : Directive) : Nat := Text.utf8Length (d.target?.getD [])

/-- A filter of the directives, the most specific last; without any, only errors
are shown. -/
def ofDirectives (ds : List Directive) (pattern? : Option Pattern) : LogFilter :=
  let ds := if ds = [] then [⟨none, .error⟩] else ds
  ⟨ds.mergeSort fun a b => decide (specificity a ≤ specificity b), pattern?⟩

/-- Reads the pattern of a filter, if it has one; one that cannot be read is told
about and left out. -/
def readPattern : List Text → Option Pattern × List Text
  | [] => (none, [])
  | t :: _ =>
    match Pattern.read t with
    | .ok p => (some p, [])
    | .error report => (none, ["invalid regex filter - ".toList ++ report])

/-- Reads a filter, together with complaints about what could not be read. -/
def read (t : Text) : LogFilter × List Text :=
  match Text.splitAt '/' t with
  | names :: more =>
    if more.length > 1 then
      (ofDirectives [] none, [complaint t ++ " (too many '/'s)".toList])
    else
      let (ds, complaints) := readDirectives (Text.splitAt ',' names) ([], [])
      let (pattern?, more) := readPattern more
      (ofDirectives ds pattern?, complaints ++ more)
  | [] => (ofDirectives [] none, [])

/-- Whether a directive applies to the entries of a compilation. -/
def applies (d : Directive) : Bool :=
  match d.target? with
  | none => true
  | some name => name.isPrefixOf target

/-- Whether an entry is shown. -/
def shows (f : LogFilter) (e : Event) : Bool :=
  match f.directives.reverse.find? applies with
  | some d =>
    decide ((Verbosity.ofSeverity e.severity).rank ≤ d.level.rank) &&
      f.pattern?.all (·.occursIn e.message)
  | none => false

end LogFilter

/-! ## Lines of the log -/

/-- The label of a severity, all of one width. -/
def Severity.label : Severity → Text
  | .warn => "[WARN ] ".toList
  | .info => "[INFO ] ".toList
  | .debug => "[DEBUG] ".toList

/-- An entry as it is shown, with the further lines of a message indented, and
without the control sequences of its message. -/
def Event.line (e : Event) : Text :=
  Text.plain (e.severity.label ++
    (e.message.flatMap fun c => if c = '\n' then "\n    ".toList else [c]) ++ ['\n'])

end StoryScript
