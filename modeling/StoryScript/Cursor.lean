/-
# `StoryScript.Cursor` — a place in a file that is read while it may change

A file is read in blocks, each from where the last one ended, and lines are cut
from what has been read.  What has been read ahead stays as it was; what comes
after it is read from the file as it is by then.  So a file that is written
while it is being read goes on, behind the last block, with its new contents.

Reading is attempted again after the end of the file, since the file may have
grown.  A file that does not change is read to its end and no further, and
yields the lines of `Source.lines`.
-/
import StoryScript.Source

namespace StoryScript

/-- A place in a file: the bytes that have been read ahead, and the number of all
that have been read. -/
structure Cursor where
  ahead : Bytes := []
  offset : Nat := 0
deriving DecidableEq, Repr

namespace Cursor

/-- The number of bytes that are read at once, where the file has as many. -/
def blockSize : Nat := 8192

/-- Whether nothing has been read yet. -/
def atStart (c : Cursor) : Bool := c.offset == 0

/-- The bytes before the first newline and those after it, if there is one; `line`
is the start of the former, read backwards. -/
def cutAfter (line : Bytes) : Bytes → Option (Bytes × Bytes)
  | [] => none
  | b :: rest => if b = 0x0A then some (line.reverse, rest) else cutAfter (b :: line) rest

/-- The first line and what follows its newline, if there is one. -/
def cutLine? (b : Bytes) : Option (Bytes × Bytes) := cutAfter [] b

/-- The blocks from the front of `unread` that reach the first newline. -/
def blocksToNewline (unread : Bytes) : Bytes :=
  let wanted := (unread.takeWhile (· != 0x0A)).length + 1
  unread.take ((wanted + (blockSize - 1)) / blockSize * blockSize)

/-- The next line out of what has been read ahead, where no line ends, and what has
just been read, and the place after it; `offset` is the number of all bytes that
have been read. -/
def lineThrough (ahead fresh : Bytes) (offset : Nat) : Option (Bytes × Cursor) :=
  match cutLine? fresh with
  | some (line, rest) => some (Source.dropReturn (ahead ++ line), ⟨rest, offset⟩)
  | none => if ahead ++ fresh = [] then none else some (ahead ++ fresh, ⟨[], offset⟩)

/-- The next line, without its line end, and the place after it.  No line is left
where nothing has been read ahead and the file has nothing more. -/
def nextLine (file : Bytes) (c : Cursor) : Option (Bytes × Cursor) :=
  match cutLine? c.ahead with
  | some (line, rest) => some (Source.dropReturn line, { c with ahead := rest })
  | none =>
    let fresh := blocksToNewline (file.drop c.offset)
    lineThrough c.ahead fresh (c.offset + fresh.length)

end Cursor

end StoryScript
