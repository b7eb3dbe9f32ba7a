/-
# `StoryScript.Sink` — where the written files go

A compilation hands over whole files, one at a time, and learns of each whether
it was taken.  What takes them is a parameter, given by what one write does to
its state.  Two sinks live here: one keeps everything in memory, the other fails
by plan, which is how a compilation's conduct under failure is stated.  The disk
is a third, in `StoryScript.Disk.Folder`.
-/
import StoryScript.Failure

namespace StoryScript

/-- A state that files are written to.  A write that fails may have changed the
state all the same. -/
class Sink (σ : Type) where
  write : σ → Path → Text → Except IoFailure Unit × σ

/-- Files kept in memory, in the order in which they were written. -/
structure Memory where
  files : List (Path × Text) := []
deriving Repr

namespace Memory

/-- A memory takes every file. -/
instance : Sink Memory where
  write m path code := (.ok (), ⟨m.files ++ [(path, code)]⟩)

/-- What was last written to the place that `path` denotes. -/
def get? (m : Memory) (path : Path) : Option Text :=
  (m.files.reverse.find? fun f => f.1.components == path.components).map (·.2)

end Memory

/-- A sink whose writes fail by plan: the plan is asked with the number of the
attempt, from 0, and its path. -/
structure Planned where
  plan : Nat → Path → Option IoFailure
  attempts : List (Path × Text) := []
  kept : List (Path × Text) := []

namespace Planned

/-- An attempt is counted whether it fails or not, and kept if it does not. -/
instance : Sink Planned where
  write p path code :=
    let tried := { p with attempts := p.attempts ++ [(path, code)] }
    match p.plan p.attempts.length path with
    | some failure => (.error failure, tried)
    | none => (.ok (), { tried with kept := p.kept ++ [(path, code)] })

end Planned

end StoryScript
