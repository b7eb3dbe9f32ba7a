/-
# `StoryScript.CommandLine` — the arguments of the program

The program takes one file and some options.  An option that takes a value has
it in the same argument, after an equals sign or, for the one-letter form,
right after the letter, or else in the next argument; letters without values
can be joined.  After two hyphens everything is a file, and so is a single hyphen
anywhere.

Arguments are taken from left to right, and the first fault is the one that is
told.  A value in an argument of its own is `pending` until the next argument
has been understood, and what is wrong with it is told only then.
-/
import StoryScript.Path
import StoryScript.Text.Plain

namespace StoryScript.CommandLine

/-- What a value is for. -/
inductive Slot where
  | input
  | outputDir
  | config
deriving DecidableEq, Repr

/-- An option without a value. -/
inductive Flag where
  | dryRun
  | verbose
  | help
  | version
deriving DecidableEq, Repr

/-- An option of either kind. -/
inductive Switch where
  | flag (f : Flag)
  | valued (s : Slot)
deriving DecidableEq, Repr

/-! ## Names -/

/-- How a slot is called in messages. -/
def Slot.display : Slot → Text
  | .input => "<FILE>".toList
  | .outputDir => "--output-dir <OUTPUT_DIR>".toList
  | .config => "--config <FILE>".toList

/-- How a flag is called in messages. -/
def Flag.display : Flag → Text
  | .dryRun => "--dry-run".toList
  | .verbose => "--verbose".toList
  | .help => "--help".toList
  | .version => "--version".toList

/-- The options by their long names.  A name is not to be shortened. -/
def longNames : List (Text × Switch) :=
  [ ("output-dir".toList, .valued .outputDir), ("config".toList, .valued .config),
    ("dry-run".toList, .flag .dryRun), ("verbose".toList, .flag .verbose),
    ("help".toList, .flag .help), ("version".toList, .flag .version) ]

/-- The option with a long name. -/
def ofName? (name : Text) : Option Switch := (longNames.find? (·.1 == name)).map (·.2)

/-- The option with a one-letter name. -/
def ofLetter? : Char → Option Switch
  | 'o' => some (.valued .outputDir)
  | 'c' => some (.valued .config)
  | 'v' => some (.flag .verbose)
  | 'h' => some (.flag .help)
  | 'V' => some (.flag .version)
  | _ => none

/-! ## Faults -/

/-- Why the arguments are refused. -/
inductive UsageError where
  | repeated (option : Text)
  | valueMissing (option : Text)
  | valueUnneeded (option value : Text)
  | unknown (argument : Text)
  | inputMissing
deriving DecidableEq, Repr

/-- What is wrong, in words.  What was typed is shown without control sequences. -/
def UsageError.message : UsageError → Text
  | .repeated option =>
    "the argument '".toList ++ option ++ "' cannot be used multiple times".toList
  | .valueMissing option =>
    "a value is required for '".toList ++ option ++ "' but none was supplied".toList
  | .valueUnneeded option value =>
    "unexpected value '".toList ++ Text.plain value ++ "' for '".toList ++ option ++
      "' found; no more were expected".toList
  | .unknown argument =>
    "unexpected argument '".toList ++ Text.plain argument ++ "' found".toList
  | .inputMissing =>
    "the following required arguments were not provided:\n  ".toList ++ Slot.display .input

/-- Why no further argument is looked at. -/
inductive Stop where
  | help
  | version
  | refused (e : UsageError)
deriving DecidableEq, Repr

/-! ## Taking arguments -/

/-- What the arguments so far have given. -/
structure Given where
  input? : Option Text := none
  outputDir? : Option Text := none
  config? : Option Text := none
  dryRun : Bool := false
  verbose : Bool := false
  /-- A slot that has been named, with its value if that has come. -/
  pending : Option (Slot × Option Text) := none
deriving DecidableEq, Repr

/-- What the program is asked to do. -/
structure Invocation where
  input : Path
  outputDir : Path := ⟨".".toList⟩
  config? : Option Path := none
  dryRun : Bool := false
  verbose : Bool := false
deriving DecidableEq, Repr

namespace Given

/-- The value of a slot. -/
def value? (g : Given) : Slot → Option Text
  | .input => g.input?
  | .outputDir => g.outputDir?
  | .config => g.config?

/-- Gives a slot its value, which must be the only one and not empty. -/
def fill (g : Given) (slot : Slot) (value : Text) : Except Stop Given :=
  if (g.value? slot).isSome then .error (.refused (.repeated slot.display))
  else if value = [] then .error (.refused (.valueMissing slot.display))
  else match slot with
    | .input => .ok { g with input? := some value }
    | .outputDir => .ok { g with outputDir? := some value }
    | .config => .ok { g with config? := some value }

/-- Gives the pending slot its value, if there is one pending. -/
def settle (g : Given) : Except Stop Given :=
  match g.pending with
  | none => .ok g
  | some (slot, none) => .error (.refused (.valueMissing slot.display))
  | some (slot, some value) => { g with pending := none }.fill slot value

/-- Sets a flag, once. -/
def raise (g : Given) (f : Flag) : Except Stop Given :=
  match g.settle, f with
  | .error stop, _ => .error stop
  | .ok _, .help => .error .help
  | .ok _, .version => .error .version
  | .ok g, .dryRun =>
    if g.dryRun then .error (.refused (.repeated f.display)) else .ok { g with dryRun := true }
  | .ok g, .verbose =>
    if g.verbose then .error (.refused (.repeated f.display)) else .ok { g with verbose := true }

/-- Names a slot; its value comes with the name or in the next argument. -/
def name (g : Given) (slot : Slot) (value? : Option Text) : Except Stop Given :=
  match g.settle, value? with
  | .error stop, _ => .error stop
  | .ok g, some value => g.fill slot value
  | .ok g, none => .ok { g with pending := some (slot, none) }

/-- Takes a long option, given without its hyphens. -/
def takeLong (g : Given) (body : Text) : Except Stop Given :=
  let name := body.takeWhile (· != '=')
  let value? := match body.dropWhile (· != '=') with
    | _ :: value => some value
    | [] => none
  match ofName? name, value? with
  | none, _ => .error (.refused (.unknown ('-' :: '-' :: name)))
  | some (.valued slot), value? => g.name slot value?
  | some (.flag f), some value => .error (.refused (.valueUnneeded f.display value))
  | some (.flag f), none => g.raise f

/-- Takes joined letters.  What follows the letter of an option with a value is
that value, without an equals sign in front. -/
def takeLetters (g : Given) : Text → Except Stop Given
  | [] => .ok g
  | c :: rest =>
    match ofLetter? c with
    | none => .error (.refused (.unknown ['-', c]))
    | some (.flag f) =>
      match g.raise f with
      | .error stop => .error stop
      | .ok g => g.takeLetters rest
    | some (.valued slot) =>
      match rest with
      | [] => g.name slot none
      | '=' :: value => g.name slot (some value)
      | value => g.name slot (some value)

/-- Takes the file to compile; there is only one. -/
def takeInput (g : Given) (t : Text) : Except Stop Given :=
  if g.input?.isSome ∨ g.pending.map (·.1) = some .input then .error (.refused (.unknown t))
  else match g.settle with
    | .error stop => .error stop
    | .ok g => .ok { g with pending := some (.input, some t) }

/-- Takes an argument that is no option: the value that is waited for, or else
the file. -/
def takePlain (g : Given) (t : Text) : Except Stop Given :=
  match g.pending with
  | some (slot, none) => .ok { g with pending := some (slot, some t) }
  | _ => g.takeInput t

/-- Takes the arguments after two hyphens. -/
def takeInputs (g : Given) : List Text → Except Stop Given
  | [] => .ok g
  | t :: rest =>
    match g.takeInput t with
    | .error stop => .error stop
    | .ok g => g.takeInputs rest

/-- Takes one argument that is not two hyphens. -/
def take (g : Given) : Text → Except Stop Given
  | '-' :: '-' :: body => g.takeLong body
  | '-' :: c :: letters => g.takeLetters (c :: letters)
  | t => g.takePlain t

/-- Takes all arguments. -/
def takeAll (g : Given) : List Text → Except Stop Given
  | [] => .ok g
  | t :: rest =>
    if t = ['-', '-'] then g.takeInputs rest
    else match g.take t with
      | .error stop => .error stop
      | .ok g => g.takeAll rest

/-- What is asked for, once everything has been taken. -/
def invocation (g : Given) : Except Stop Invocation :=
  match g.input? with
  | none => .error (.refused .inputMissing)
  | some input =>
    .ok { input := ⟨input⟩
          outputDir := ⟨g.outputDir?.getD ".".toList⟩
          config? := g.config?.map Path.mk
          dryRun := g.dryRun
          verbose := g.verbose }

end Given

/-- Reads the arguments of the program. -/
def parse (args : List Text) : Except Stop Invocation := do
  let g ← ({} : Given).takeAll args
  let g ← g.settle
  g.invocation

/-! ## Texts -/

/-- The version of the program. -/
def version : Text := "0.1.0".toList

/-- What the program says of its version. -/
def versionText : Text := "talec ".toList ++ version ++ "\n".toList

/-- How the program is called. -/
def usage : Text := "Usage: talec [OPTIONS] <FILE>\n".toList

/-- What the program says of itself. -/
def helpText : Text :=
  "Tale Script Compiler: turns Markdown story scripts into Tale scene scripts\n\n".toList ++
  usage ++
  ("\nArguments:\n" ++
    "  <FILE>  Story script to compile\n\n" ++
    "Options:\n" ++
    "  -o, --output-dir <OUTPUT_DIR>  Root directory for the generated files [default: .]\n" ++
    "  -c, --config <FILE>            JSON file overriding the compiler settings\n" ++
    "      --dry-run                  Compile without writing anything, " ++
      "listing the files that would be generated\n" ++
    "  -v, --verbose                  Enable verbose output\n" ++
    "  -h, --help                     Print help\n" ++
    "  -V, --version                  Print version\n").toList

/-- What is told when the arguments are refused. -/
def UsageError.text (e : UsageError) : Text :=
  "error: ".toList ++ e.message ++ "\n\n".toList ++ usage ++
    "\nFor more information, try '--help'.\n".toList

end StoryScript.CommandLine
