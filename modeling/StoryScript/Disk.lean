/-
# `StoryScript.Disk` — a tree of directories and files

A disk maps places to what is there.  A place is a list of names, from the root
down; the root itself is always there, and going up ends at it.  Absolute paths
start at the root, the others at the working directory.  There are no links, room
is never short, and everything is permitted.

Finding a place walks along the path step by step.  Each step is taken from a
directory, so a file on the way is an error, and so is a name that is missing or
too long; a path as a whole is refused for its text before the first step.
Making and writing walk to the directory that holds the last step, and what they
do there depends on that step alone.
-/
import StoryScript.Source

namespace StoryScript

/-- What is at a place. -/
inductive Entry where
  | file (bytes : Bytes)
  | dir
deriving DecidableEq, Repr

/-- The names on the way from the root. -/
abbrev Place := List Text

/-- A tree, as the list of its entries below the root, and the working directory. -/
structure Disk where
  entries : List (Place × Entry) := []
  /-- Where relative paths start: the root, unless it is told otherwise. -/
  workDir : Place := []
deriving Repr

namespace Disk

/-- What is at a place, if anything. -/
def lookup (d : Disk) (place : Place) : Option Entry :=
  if place = [] then some .dir else (d.entries.find? (·.1 == place)).map (·.2)

/-- The disk with an entry put at a place, over what was there. -/
def put (d : Disk) (place : Place) (e : Entry) : Disk :=
  { d with entries := (place, e) :: d.entries.filter (·.1 != place) }

theorem lookup_put (d : Disk) {place : Place} (h : place ≠ []) (e : Entry) (q : Place) :
    (d.put place e).lookup q = if q = place then some e else d.lookup q := by
  by_cases hq : q = place
  · subst hq
    simp [lookup, put, h]
  · have hne : (place == q) = false := by simp [Ne.symm hq]
    simp only [lookup, put, if_neg hq, List.find?_cons, hne]
    split
    · rfl
    · congr 1
      induction d.entries with
      | nil => rfl
      | cons x rest ih =>
        simp only [List.filter_cons, List.find?_cons]
        by_cases hx : x.1 = place
        · have hxq : (x.1 == q) = false := by rw [hx]; exact hne
          simp only [hx, bne_self_eq_false, Bool.false_eq_true, if_false, hne, ih]
        · simp only [show (x.1 != place) = true by simp [hx], if_true, List.find?_cons, ih]

/-- The longest name, in bytes. -/
def maxName : Nat := 255

/-- The longest path, in bytes. -/
def maxPath : Nat := 4095

/-- The steps of a path, unless its text rules out that it denotes anything. -/
def steps (p : Path) : Except IoCause (List Text) :=
  if '\x00' ∈ p.text then .error .nulInName
  else if p.text = [] then .error .noSuchFile
  else if Text.utf8Length p.text > maxPath then .error .nameTooLong
  else .ok ((Path.segments p.text).filter (· ≠ []))

/-- Where a path starts. -/
def base (d : Disk) (p : Path) : Place := if p.text.head? = some '/' then [] else d.workDir

/-- A step that is a dot or two. -/
def isDots (step : Text) : Bool := step == ['.'] || step == ['.', '.']

/-- Where one step leads from a place. -/
def follow (d : Disk) (place : Place) (step : Text) : Except IoCause Place :=
  if d.lookup place ≠ some .dir then .error .notDirectory
  else if step = ['.'] then .ok place
  else if step = ['.', '.'] then .ok place.dropLast
  else if Text.utf8Length step > maxName then .error .nameTooLong
  else if (d.lookup (place ++ [step])).isSome then .ok (place ++ [step])
  else .error .noSuchFile

/-- Where a sequence of steps leads. -/
def walk (d : Disk) (place : Place) : List Text → Except IoCause Place
  | [] => .ok place
  | step :: rest =>
    match d.follow place step with
    | .error cause => .error cause
    | .ok next => d.walk next rest

/-- Whether the path ends with a slash, and so has to denote a directory. -/
def wantsDirectory (p : Path) : Bool := p.text.getLast? == some '/'

/-- The place that a path denotes, and what is there. -/
def locate (d : Disk) (p : Path) : Except IoCause (Place × Entry) :=
  match steps p with
  | .error cause => .error cause
  | .ok names =>
    match d.walk (d.base p) names with
    | .error cause => .error cause
    | .ok place =>
      match d.lookup place with
      | none => .error .noSuchFile
      | some .dir => .ok (place, .dir)
      | some (.file b) => if wantsDirectory p then .error .notDirectory else .ok (place, .file b)

/-- What a path denotes. -/
def find (d : Disk) (p : Path) : Except IoCause Entry := (d.locate p).map (·.2)

/-- The bytes of the file at a place. -/
def contentsAt (d : Disk) (place : Place) : Bytes :=
  match d.lookup place with
  | some (.file b) => b
  | _ => []

/-- Whether a path denotes a directory. -/
def isDir (d : Disk) (p : Path) : Bool :=
  match d.find p with
  | .ok .dir => true
  | _ => false

/-- Opens a path for reading.  A directory can be opened, and fails when it is
read. -/
def openSource (d : Disk) (p : Path) : Except IoCause Source :=
  match d.find p with
  | .error cause => .error cause
  | .ok (.file b) => .ok ⟨b, none⟩
  | .ok .dir => .ok ⟨[], some .isDirectory⟩

/-- All bytes of the file that a path denotes. -/
def readFile (d : Disk) (p : Path) : Except IoCause Bytes :=
  match d.openSource p with
  | .error cause => .error cause
  | .ok ⟨b, none⟩ => .ok b
  | .ok ⟨_, some cause⟩ => .error cause

/-- The directory that holds the last step of a path, and that step; nothing is
held by any directory if the path has no steps. -/
def holder (d : Disk) (p : Path) : Except IoCause (Option (Place × Text)) :=
  match steps p with
  | .error cause => .error cause
  | .ok names =>
    match names.getLast? with
    | none => .ok none
    | some last =>
      match d.walk (d.base p) names.dropLast with
      | .error cause => .error cause
      | .ok place =>
        if d.lookup place = some .dir then .ok (some (place, last)) else .error .notDirectory

/-- Makes one directory where nothing is yet. -/
def makeDir (d : Disk) (p : Path) : Except IoCause Disk :=
  match d.holder p with
  | .error cause => .error cause
  | .ok none => .error .fileExists
  | .ok (some (place, last)) =>
    if isDots last then .error .fileExists
    else if Text.utf8Length last > maxName then .error .nameTooLong
    else if (d.lookup (place ++ [last])).isSome then .error .fileExists
    else .ok (d.put (place ++ [last]) .dir)

/-- Makes a directory and the ones above it that are missing.  What was made
stays when a later one cannot be made. -/
def makeDirs (d : Disk) (p : Path) : Except IoCause Unit × Disk :=
  if p.text = [] ∨ d.isDir p then (.ok (), d)
  else match d.makeDir p with
    | .ok d => (.ok (), d)
    | .error .noSuchFile =>
      match h : p.parent? with
      | none => (.error .noSuchFile, d)
      | some above =>
        have := Path.length_parent?_lt h
        match d.makeDirs above with
        | (.error cause, d) => (.error cause, d)
        | (.ok (), d) =>
          match d.makeDir p with
          | .ok d => (.ok (), d)
          | .error cause => if d.isDir p then (.ok (), d) else (.error cause, d)
    | .error cause => (.error cause, d)
termination_by p.text.length

/-- Writes a file over what was there; a directory is not written over. -/
def writeFile (d : Disk) (p : Path) (bytes : Bytes) : Except IoCause Disk :=
  match d.holder p with
  | .error cause => .error cause
  | .ok none => .error .isDirectory
  | .ok (some (place, last)) =>
    if isDots last ∨ wantsDirectory p then .error .isDirectory
    else if Text.utf8Length last > maxName then .error .nameTooLong
    else if d.lookup (place ++ [last]) = some .dir then .error .isDirectory
    else .ok (d.put (place ++ [last]) (.file bytes))

/-! ## The tree as a list -/

/-- The path that an entry is listed by; a directory's ends with a slash. -/
def listedPath (place : Place) : Entry → Text
  | .file _ => List.intercalate ['/'] place
  | .dir => List.intercalate ['/'] place ++ ['/']

/-- Every entry with the path it is listed by, in the order of these. -/
def listing (d : Disk) : List (Text × Entry) :=
  let listed := d.entries.map fun (place, e) => (listedPath place e, e)
  listed.mergeSort fun a b => !(decide (b.1 < a.1))

end Disk

end StoryScript
