/-
# `StoryScript.Json.Fault` — why a JSON text is refused, and where

A reader of JSON works on the text that is still unread, and when it refuses it
says what is wrong and how much was unread at that point.  Line and column are
worked out afterwards from the whole text, so no reader carries a position.

Columns count bytes, of the encoded text, and they include the byte at which the
fault was noticed: `reach` says how many bytes past the start of the unread text
that is.  A newline noticed as faulty therefore puts the fault into column 0 of
the next line.
-/
import StoryScript.Number.Shortest
import StoryScript.Text.Quoted
import StoryScript.Text.Split

namespace StoryScript.Json

/-- A number as the reader keeps it: a natural number, a negative integer given
by its magnitude, or else a rounded one. -/
inductive Number where
  | natural (n : Nat)
  | negative (n : Nat)
  | rounded (isNegative : Bool) (magnitude : Binary64)
deriving DecidableEq, Repr

/-- What stands where something else was wanted. -/
inductive Found where
  | null
  | boolean (b : Bool)
  | number (n : Number)
  | string (t : Text)
  | list
  | object
deriving DecidableEq, Repr

/-- What was wanted. -/
inductive Wanted where
  | string
  | path
  | settings
deriving DecidableEq, Repr

/-- Why a text is refused. -/
inductive Cause where
  | endInValue
  | endInObject
  | endInList
  | endInString
  | expectedValue
  | expectedIdent
  | expectedColon
  | expectedCommaOrObjectEnd
  | expectedCommaOrListEnd
  | keyMustBeString
  | trailingComma
  | trailingCharacters
  | invalidNumber
  | numberOutOfRange
  | invalidEscape
  | unexpectedEndOfHexEscape
  | loneSurrogate
  | controlCharacter
  | wrongType (found : Found) (wanted : Wanted)
  | duplicateKey (key : Text)
deriving DecidableEq, Repr

/-- A refusal: the cause, the text that was unread when it was noticed, and the
bytes of it that the fault's position includes. -/
structure Fault where
  cause : Cause
  unread : Text
  reach : Nat := 0
deriving DecidableEq, Repr

/-! ## Positions -/

/-- A line, counted from 1, and the number of bytes of it so far. -/
structure Position where
  line : Nat := 1
  column : Nat := 0
deriving DecidableEq, Repr

/-- The position after one more character. -/
def Position.past (p : Position) (c : Char) : Position :=
  if c = '\n' then ⟨p.line + 1, 0⟩ else ⟨p.line, p.column + c.utf8Size⟩

/-- The position `n` bytes further into the text, or at its end. -/
def Position.into (p : Position) : Nat → Text → Position
  | _, [] => p
  | n, c :: rest =>
    if n = 0 then p
    else if c.utf8Size ≤ n then (p.past c).into (n - c.utf8Size) rest
    else ⟨p.line, p.column + n⟩

/-- Where in the whole text a fault lies. -/
def Fault.position (f : Fault) (whole : Text) : Position :=
  ((whole.take (whole.length - f.unread.length)).foldl Position.past {}).into f.reach f.unread

/-! ## Wording -/

/-- Decimal exponents from here on are written positionally, ... -/
def positionalFrom : Int := -5

/-- ... up to here; beyond, the number is written with an exponent. -/
def positionalTo : Int := 15

/-- A decimal with the given digits and the given exponent of its leading one,
written without an exponent and never without a point. -/
def positional (digits : Text) (leading : Int) : Text :=
  if leading < 0 then
    '0' :: '.' :: List.replicate (leading.natAbs - 1) '0' ++ digits
  else
    let places := leading.natAbs + 1
    let whole := digits.take places ++ List.replicate (places - digits.length) '0'
    match digits.drop places with
    | [] => whole ++ ['.', '0']
    | fraction => whole ++ '.' :: fraction

/-- A decimal written with one digit before the point and a signed exponent,
which has no zeros in front. -/
def scientific (digits : Text) (leading : Int) : Text :=
  let mantissa := match digits with
    | d :: e :: rest => d :: '.' :: e :: rest
    | short => short
  mantissa ++ 'e' :: (if leading < 0 then '-' else '+') :: Text.digitsOf leading.natAbs

/-- A magnitude in its shortest decimal form. -/
def magnitudeText (x : Binary64) : Text :=
  if x.mantissa = 0 then ['0', '.', '0']
  else
    let (digits, exponent) := x.shortest
    let digits := Text.digitsOf digits
    let leading := exponent + digits.length - 1
    if positionalFrom ≤ leading ∧ leading ≤ positionalTo then positional digits leading
    else scientific digits leading

/-- A text between backquotes. -/
def backquoted (t : Text) : Text := '`' :: t ++ ['`']

/-- What was found, as an error message calls it. -/
def Found.text : Found → Text
  | .null => "null".toList
  | .boolean b => "boolean ".toList ++ backquoted (if b then "true".toList else "false".toList)
  | .number (.natural n) => "integer ".toList ++ backquoted (Text.digitsOf n)
  | .number (.negative n) => "integer ".toList ++ backquoted ('-' :: Text.digitsOf n)
  | .number (.rounded isNegative x) =>
    "floating point ".toList ++
      backquoted ((if isNegative then ['-'] else []) ++ magnitudeText x)
  | .string t => "string ".toList ++ Text.quoted t
  | .list => "sequence".toList
  | .object => "map".toList

/-- What was wanted, as an error message calls it. -/
def Wanted.text : Wanted → Text
  | .string => "a string".toList
  | .path => "path string".toList
  | .settings => "struct Config".toList

/-- The wording of a cause. -/
def Cause.message : Cause → Text
  | .endInValue => "EOF while parsing a value".toList
  | .endInObject => "EOF while parsing an object".toList
  | .endInList => "EOF while parsing a list".toList
  | .endInString => "EOF while parsing a string".toList
  | .expectedValue => "expected value".toList
  | .expectedIdent => "expected ident".toList
  | .expectedColon => "expected `:`".toList
  | .expectedCommaOrObjectEnd => "expected `,` or `\x7d`".toList
  | .expectedCommaOrListEnd => "expected `,` or `]`".toList
  | .keyMustBeString => "key must be a string".toList
  | .trailingComma => "trailing comma".toList
  | .trailingCharacters => "trailing characters".toList
  | .invalidNumber => "invalid number".toList
  | .numberOutOfRange => "number out of range".toList
  | .invalidEscape => "invalid escape".toList
  | .unexpectedEndOfHexEscape => "unexpected end of hex escape".toList
  | .loneSurrogate => "lone leading surrogate in hex escape".toList
  | .controlCharacter =>
    "control character (\\u0000-\\u001F) found while parsing a string".toList
  | .wrongType found wanted =>
    "invalid type: ".toList ++ found.text ++ ", expected ".toList ++ wanted.text
  | .duplicateKey key => "duplicate field ".toList ++ backquoted key

/-- The wording of a fault in the given text, with its position. -/
def Fault.message (f : Fault) (whole : Text) : Text :=
  let p := f.position whole
  f.cause.message ++ " at line ".toList ++ Text.digitsOf p.line ++
    " column ".toList ++ Text.digitsOf p.column

end StoryScript.Json
