/-
# `StoryScript.Line` — what one line of a story script means

A script is read line by line, and each line means one thing on its own:

    # heading             a level-1 heading: where the script starts, or ends
    ## heading            a level-2 heading: a scene begins
    speaker: utterance    a statement: the speaker says it
    ---                   a statement: a pause
    any other text        a statement: a comment
    (blank)               nothing

The headings are told by how the raw line starts, the others by its text
between the blanks, and the first rule that fits wins.  A statement is what
ends up in a scene's class; only `StoryScript.Statement` writes it down.
-/
import StoryScript.Text.Blank

namespace StoryScript

/-- A spoken line.  `literal` is the utterance as it stands between the
quotes of a string literal: a quote or a backslash is preceded by a
backslash there. -/
structure Dialogue where
  speaker : Text
  literal : Text
deriving DecidableEq, Repr

/-- What a line contributes to the scene it stands in. -/
inductive Statement where
  | say (dialogue : Dialogue)
  | pause
  | comment (text : Text)
deriving DecidableEq, Repr

/-- The meaning of one line. -/
inductive Line where
  | title (heading : Text)
  | scene (heading : Text)
  | statement (s : Statement)
  | blank
deriving DecidableEq, Repr

namespace Dialogue

/-- The body of the string literal that reads as `t`. -/
def escape (t : Text) : Text :=
  t.flatMap fun c => if c = '\\' ∨ c = '"' then ['\\', c] else [c]

/-- The text without a double quote at its start. -/
def dropQuote : Text → Text
  | '"' :: rest => rest
  | t => t

/-- What is said: one pair of enclosing double quotes is the writer's, and so
are the blanks inside and outside of it.  A quote on one side only goes too. -/
def unquote (t : Text) : Text :=
  Text.trim (dropQuote (dropQuote (Text.trim t)).reverse).reverse

/-- A spoken line opens with the speaker's name, one or more ASCII letters
and digits after any blanks, and a colon; what is said must not be empty and
must not reach into another line. -/
def ofLine? (line : Text) : Option Dialogue :=
  let body := Text.trimStart line
  match body.takeWhile Char.isAlphanum, body.dropWhile Char.isAlphanum with
  | c :: name, ':' :: rest =>
    if '\n' ∈ rest then none
    else match unquote rest with
      | [] => none
      | said => some ⟨c :: name, escape said⟩
  | _, _ => none

/-- An utterance in parentheses is a thought or an echo, spoken with reverb. -/
def isReverb (d : Dialogue) : Bool :=
  d.literal.head? == some '(' && d.literal.getLast? == some ')'

end Dialogue

namespace Line

/-- The line of three hyphens that stands for a pause. -/
def pauseMark : Text := ['-', '-', '-']

/-- The meaning of a line that is no heading and that nobody speaks. -/
def ofPlain (text : Text) : Line :=
  if text = pauseMark then .statement .pause
  else if text = [] then .blank
  else .statement (.comment text)

/-- The meaning of a line.  A heading needs the blank after its marks, so
`#tag` and `###` are comments; a speaker with nothing to say leaves a comment
as well. -/
def ofText : Text → Line
  | '#' :: '#' :: ' ' :: rest => .scene (Text.trim rest)
  | '#' :: ' ' :: rest => .title (Text.trim rest)
  | line =>
    match Dialogue.ofLine? line with
    | some d => .statement (.say d)
    | none => ofPlain (Text.trim line)

end Line

end StoryScript
