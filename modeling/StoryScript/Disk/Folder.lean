/-
# `StoryScript.Disk.Folder` — a directory of a disk as a sink

Files written to a folder go below its root, wherever their paths lead from
there, and the directories on the way are made as they are needed.  A failed
write leaves the directories that it has made, and nothing else.
-/
import StoryScript.Compilation
import StoryScript.Disk

namespace StoryScript

namespace Disk

/-- Makes the directory that is to hold `target`.  A failure is blamed on that
directory, not on the one above it that could not be made. -/
def makeAbove (d : Disk) (target : Path) : Except IoFailure Unit × Disk :=
  match target.parent? with
  | none => (.ok (), d)
  | some above =>
    match d.makeDirs above with
    | (.ok (), d) => (.ok (), d)
    | (.error cause, d) => (.error ⟨above, cause⟩, d)

/-- A directory of a disk that files are written below. -/
structure Folder where
  root : Path
  disk : Disk
deriving Repr

/-- Writes a text to a file below the root. -/
def Folder.write (f : Folder) (path : Path) (code : Text) : Except IoFailure Unit × Folder :=
  let target := f.root.join path
  match f.disk.makeAbove target with
  | (.error failure, disk) => (.error failure, { f with disk })
  | (.ok (), disk) =>
    match disk.writeFile target (Text.encode code) with
    | .ok disk => (.ok (), { f with disk })
    | .error cause => (.error ⟨target, cause⟩, { f with disk })

instance : Sink Folder := ⟨Folder.write⟩

/-- Compiles the script in a file of the disk into the folder at `root`.  A file
that the compilation writes over while it is read goes on with its new contents
behind the block that has been read. -/
def compileFile (d : Disk) (cfg : Config) (root input : Path) : Outcome Folder Report :=
  match d.locate input with
  | .ok (place, .file _) => compileLive cfg input (fun f => f.disk.contentsAt place) ⟨root, d⟩
  | _ => compileOpened cfg input (d.openSource input) ⟨root, d⟩

end Disk

end StoryScript
