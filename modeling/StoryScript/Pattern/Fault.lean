/-
# `StoryScript.Pattern.Fault` — what is wrong with a pattern, and where

A pattern that cannot be read has one fault that is told: the first one, with the
stretch of the pattern that it is about.  The report shows the pattern with that
stretch underlined; the lines of a pattern of several lines are numbered, and a
stretch over several of them is told by its ends.
-/
import StoryScript.Text.Split

namespace StoryScript.Pattern

/-- A stretch of a pattern: the number of characters before it, and that of those
before its end. -/
structure Span where
  start : Nat
  stop : Nat
deriving DecidableEq, Repr

/-- What can be wrong with a pattern. -/
inductive Cause where
  | boundInvalid
  | boundaryOrRepetitionUnclosed
  | boundaryUnclosed
  | boundaryUnknown
  | backreference
  | byteInvalid
  | classEscape
  | classUnclosed
  | countEmpty
  | countInvalid
  | countRange
  | countUnclosed
  | escapeUnfinished
  | escapeUnknown
  | flagDangling
  | flagDuplicate
  | flagNegatedTwice
  | flagUnfinished
  | flagUnknown
  | groupNameDuplicate
  | groupNameEmpty
  | groupNameInvalid
  | groupNameUnclosed
  | groupUnclosed
  | groupUnopened
  | hexDigit
  | hexEmpty
  | hexNoCharacter
  | lookAround
  | nestedTooDeep
  | propertyInvalid
  | propertyUnknown
  | propertyValueUnknown
  | rangeBackwards
  | repetitionOfNothing
  | unicodeOff
deriving DecidableEq, Repr

/-- How deep the parts of a pattern may be nested. -/
def maxNesting : Nat := 250

/-- A cause in words. -/
def Cause.message : Cause → Text
  | .boundInvalid => "invalid range boundary, must be a literal".toList
  | .boundaryOrRepetitionUnclosed =>
    ("found either the beginning of a special word boundary or a bounded repetition on a \\b " ++
      "with an opening brace, but no closing brace").toList
  | .boundaryUnclosed =>
    ("special word boundary assertion is either unclosed or contains an invalid " ++
      "character").toList
  | .boundaryUnknown =>
    ("unrecognized special word boundary assertion, valid choices are: start, end, start-half " ++
      "or end-half").toList
  | .backreference => "backreferences are not supported".toList
  | .byteInvalid => "pattern can match invalid UTF-8".toList
  | .classEscape => "invalid escape sequence found in character class".toList
  | .classUnclosed => "unclosed character class".toList
  | .countEmpty => "repetition quantifier expects a valid decimal".toList
  | .countInvalid => "decimal literal invalid".toList
  | .countRange => "invalid repetition count range, the start must be <= the end".toList
  | .countUnclosed => "unclosed counted repetition".toList
  | .escapeUnfinished =>
    "incomplete escape sequence, reached end of pattern prematurely".toList
  | .escapeUnknown => "unrecognized escape sequence".toList
  | .flagDangling => "dangling flag negation operator".toList
  | .flagDuplicate => "duplicate flag".toList
  | .flagNegatedTwice => "flag negation operator repeated".toList
  | .flagUnfinished => "expected flag but got end of regex".toList
  | .flagUnknown => "unrecognized flag".toList
  | .groupNameDuplicate => "duplicate capture group name".toList
  | .groupNameEmpty => "empty capture group name".toList
  | .groupNameInvalid => "invalid capture group character".toList
  | .groupNameUnclosed => "unclosed capture group name".toList
  | .groupUnclosed => "unclosed group".toList
  | .groupUnopened => "unopened group".toList
  | .hexDigit => "invalid hexadecimal digit".toList
  | .hexEmpty => "hexadecimal literal empty".toList
  | .hexNoCharacter => "hexadecimal literal is not a Unicode scalar value".toList
  | .lookAround => "look-around, including look-ahead and look-behind, is not supported".toList
  | .nestedTooDeep =>
    "exceed the maximum number of nested parentheses/brackets (".toList ++
      Text.digitsOf maxNesting ++ ")".toList
  | .propertyInvalid => "invalid Unicode character class".toList
  | .propertyUnknown => "Unicode property not found".toList
  | .propertyValueUnknown => "Unicode property value not found".toList
  | .rangeBackwards => "invalid character class range, the start must be <= the end".toList
  | .repetitionOfNothing => "repetition operator missing expression".toList
  | .unicodeOff => "Unicode not allowed here".toList

/-- A fault of a pattern, with a further stretch where something was met that must
not be met again. -/
structure Fault where
  cause : Cause
  span : Span
  earlier? : Option Span := none
deriving DecidableEq, Repr

namespace Fault

/-- The line that a place is on, from 0. -/
def lineOf (pattern : Text) (place : Nat) : Nat := (pattern.take place).count '\n'

/-- The column that a place is at, from 0. -/
def columnOf (pattern : Text) (place : Nat) : Nat :=
  ((pattern.take place).reverse.takeWhile (· != '\n')).length

/-- Whether a stretch begins and ends on one line. -/
def isOnOneLine (pattern : Text) (s : Span) : Bool :=
  lineOf pattern s.start == lineOf pattern s.stop

/-- The stretches that are told, in the order of their places. -/
def spans (f : Fault) : List Span := f.earlier?.toList ++ [f.span]

/-- The carets under the stretches of a line, from a column on. -/
def carets (pattern : Text) (column : Nat) : List Span → Text
  | [] => []
  | s :: rest =>
    let first := columnOf pattern s.start
    let width := max 1 (columnOf pattern s.stop - first)
    List.replicate (first - column) ' ' ++ List.replicate width '^' ++
      carets pattern (max column first + width) rest

/-- The lines of a pattern as they are shown.  An empty last line is not, and the
carriage return of a line end belongs to it. -/
def shownLines : List Text → List Text
  | [] => []
  | [last] => if last = [] then [] else [last]
  | line :: rest => (if line.getLast? = some '\r' then line.dropLast else line) :: shownLines rest

/-- A number, as wide as it is asked for. -/
def padded (width n : Nat) : Text :=
  List.replicate (width - (Text.digitsOf n).length) ' ' ++ Text.digitsOf n

/-- The pattern with the stretches underlined.  Lines are numbered if there is more
than one. -/
def notated (pattern : Text) (f : Fault) : Text :=
  let pieces := Text.splitAt '\n' pattern
  let width := if pieces.length > 1 then (Text.digitsOf pieces.length).length else 0
  (shownLines pieces).zipIdx.flatMap fun (line, i) =>
    let front := if pieces.length > 1 then padded width (i + 1) ++ ": ".toList else "    ".toList
    let here := f.spans.filter fun s => isOnOneLine pattern s && lineOf pattern s.start == i
    front ++ line ++ ['\n'] ++
      if here = [] then [] else
        List.replicate front.length ' ' ++ carets pattern 0 here ++ ['\n']

/-- What is told of a stretch over several lines. -/
def ends (pattern : Text) (s : Span) : Text :=
  "on line ".toList ++ Text.digitsOf (lineOf pattern s.start + 1) ++
  " (column ".toList ++ Text.digitsOf (columnOf pattern s.start + 1) ++
  ") through line ".toList ++ Text.digitsOf (lineOf pattern s.stop + 1) ++
  " (column ".toList ++ Text.digitsOf (columnOf pattern s.stop) ++ ")\n".toList

/-- What is told of a fault. -/
def report (pattern : Text) (f : Fault) : Text :=
  let divider := if '\n' ∈ pattern then List.replicate 79 '~' ++ ['\n'] else []
  "regex parse error:\n".toList ++ divider ++ notated pattern f ++ divider ++
  ((f.spans.filter fun s => !(isOnOneLine pattern s)).flatMap (ends pattern)) ++
  "error: ".toList ++ f.cause.message

end Fault

end StoryScript.Pattern
