/-
# `StoryScript.Source` — a script as it is read: bytes, and lines out of them

A script arrives as bytes, from a reader that may break off.  It is taken line
by line, and each line is decoded on its own, so a line that is no valid UTF-8
is an error only if the compilation gets as far as that line.  A line ends with
a newline, and a carriage return right before it belongs to the line end; at
the end of the bytes a last line may do without, and then a carriage return is
its own.

Lines are data here: a list with an error where the reader would have failed.
Nothing after the first error is ever looked at.
-/
import StoryScript.Failure

namespace StoryScript

/-- The contents of a file. -/
abbrev Bytes := List UInt8

/-- The text in UTF-8. -/
def Text.encode (t : Text) : Bytes := t.flatMap String.utf8EncodeChar

/-- The text that the bytes encode in UTF-8, if they do. -/
def Text.decode? (b : Bytes) : Option Text := b.toByteArray.utf8Decode?.map Array.toList

theorem Text.length_encode (t : Text) : t.encode.length = utf8Length t := by
  induction t with
  | nil => rfl
  | cons c rest ih =>
    rw [Text.utf8Length_cons, ← ih]
    simp only [Text.encode, List.flatMap_cons, List.length_append, String.length_utf8EncodeChar]

theorem Text.decode?_encode (t : Text) : Text.decode? t.encode = some t := by
  have h : t.encode.toByteArray = List.utf8Encode t := rfl
  simp only [Text.decode?, h, List.utf8Decode?_utf8Encode, Option.map_some]

/-- Bytes to be read.  Reading ends with `failure?` where the file would end,
if there is one. -/
structure Source where
  bytes : Bytes
  failure? : Option IoCause := none
deriving Repr

namespace Source

/-- The source that holds a text and reads without failure. -/
def ofText (t : Text) : Source := ⟨t.encode, none⟩

/-- The bytes of the finished lines, without their newlines, and those of an
unfinished last line; `line` is the start of the first one, read backwards. -/
def cutFrom (line : Bytes) : Bytes → List Bytes × Bytes
  | [] => ([], line.reverse)
  | b :: rest =>
    if b = 0x0A then
      let (lines, last) := cutFrom [] rest
      (line.reverse :: lines, last)
    else cutFrom (b :: line) rest

/-- A line without the carriage return of its line end. -/
def dropReturn (line : Bytes) : Bytes :=
  if line.getLast? = some 0x0D then line.dropLast else line

/-- The text of a line, if its bytes encode one. -/
def readLine (line : Bytes) : Except IoCause Text :=
  match Text.decode? line with
  | some t => .ok t
  | none => .error .invalidUtf8

/-- What reading line by line yields.  A reader that fails loses the line it
has not finished. -/
def lines (s : Source) : List (Except IoCause Text) :=
  let (whole, last) := cutFrom [] s.bytes
  whole.map (readLine ∘ dropReturn) ++
    match s.failure? with
    | some cause => [.error cause]
    | none => if last = [] then [] else [readLine last]

/-- The mark that some editors put in front of a text. -/
def byteOrderMark : Char := '\ufeff'

/-- A line without any byte order marks in front of it. -/
def unmarkedLine (line : Text) : Text := line.dropWhile (· == byteOrderMark)

/-- The lines without any byte order marks in front of the first. -/
def unmarked : List (Except IoCause Text) → List (Except IoCause Text)
  | .ok line :: rest => .ok (unmarkedLine line) :: rest
  | lines => lines

end Source

end StoryScript
