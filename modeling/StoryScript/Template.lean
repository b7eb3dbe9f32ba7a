/-
# `StoryScript.Template` — a text with gaps that values are put into

A class whose code depends on names can be laid out as a template.  That is its text, with
tags for what is not fixed:

    {{ name }}                                 the value of that name
    {% for item in list %} ... {% endfor %}    what is in between, once for each value of the list

A hyphen at either end of a command cuts the blanks off the text on that side of its tag, so a
tag may have a line to itself and leave no trace of it.  A value is put in as it is, and what
it brings is not taken for a tag.

What a template makes of values is asked of an engine, and `Engine` is what an engine has to
keep to, as far as one loop over one list goes.  Here is one that does: it cuts a template at
its tags, trims the texts where a hyphen asks for it, and makes one part of what is between a
command and its end.  Loops stand side by side; none is inside another.
-/
import StoryScript.Text.Split

namespace StoryScript.Template

/-! ## What an engine does -/

/-- What a name of a template stands for. -/
inductive Value where
  | text (t : Text)
  | list (ts : List Text)
deriving DecidableEq, Repr

/-- The names that a template may use, with what they stand for. -/
abbrev Values := List (Text × Value)

/-- A text, or a gap for a value. -/
inductive Piece where
  | text (t : Text)
  | value (name : Text)
deriving DecidableEq, Repr

/-- Whether a text has nothing in it that starts a tag, nor might with what follows it. -/
def isPlain : Text → Bool
  | '\x7b' :: c :: rest => c != '\x7b' && c != '%' && c != '#' && isPlain (c :: rest)
  | ['\x7b'] => false
  | _ :: rest => isPlain rest
  | [] => true

/-- A piece as a template has it. -/
def Piece.source : Piece → Text
  | .text t => t
  | .value name => "\x7b\x7b ".toList ++ name ++ " \x7d\x7d".toList

/-- Whether a piece is plain text, or a gap for this name. -/
def Piece.isFor (item : Text) : Piece → Bool
  | .text t => isPlain t
  | .value name => name == item

/-- What a piece makes of a value, if that is the one of its name. -/
def Piece.put (value : Text) : Piece → Text
  | .text t => t
  | .value _ => value

/-- The tag that starts a loop, and cuts off the blanks in front of it. -/
def loopTag (item list : Text) : Text :=
  "\x7b%- for ".toList ++ item ++ " in ".toList ++ list ++ " %\x7d".toList

/-- The tag that ends it, and cuts off the blanks behind it. -/
def endTag : Text := "\x7b% endfor -%\x7d".toList

/-- An engine for templates with a loop over `list`, in which `item` is the value of the turn.
Such a loop is what its body makes of each value, one after the other, between the texts around
it without the blanks next to it. -/
structure Engine (item list : Text) where
  render : Text → Values → Option Text
  render_loop {before after : Text} {body : List Piece} {v : Values} {values : List Text}
    (hbefore : isPlain before = true) (hbody : ∀ p ∈ body, p.isFor item = true)
    (hafter : isPlain after = true) (hvalues : v.lookup list = some (.list values)) :
    render (before ++ loopTag item list ++ body.flatMap Piece.source ++ endTag ++ after) v =
      some (Text.dropEndWhile Text.isBlank before ++
        values.flatMap (fun value => body.flatMap (Piece.put value)) ++ Text.trimStart after)

/-! ## Reading -/

/-- What a template is cut into.  A command is given by its words, and by whether it has a
hyphen in front and behind. -/
inductive Token where
  | text (t : Text)
  | value (name : Text)
  | command (before : Bool) (words : List Text) (after : Bool)
deriving DecidableEq, Repr

/-- What is being read. -/
inductive Mode where
  | text
  | value
  | command
deriving DecidableEq, Repr

/-- The words of a text, between its blanks. -/
def wordsOf (t : Text) : List Text :=
  (Text.splitAt ' ' (t.map fun c => if Text.isBlank c then ' ' else c)).filter (· ≠ [])

/-- The command between the ends of its tag. -/
def commandOf (inside : Text) : Token :=
  let before := inside.head? == some '-'
  let inside := if before then inside.tail else inside
  let after := inside.getLast? == some '-'
  .command before (wordsOf (if after then inside.dropLast else inside)) after

/-- Cuts a template at its tags; `start` is what has been read of the first token, backwards.
A tag that does not end is an error. -/
def scan : Mode → Text → Text → Option (List Token)
  | .text, start, '\x7b' :: '\x7b' :: rest => (scan .value [] rest).map (.text start.reverse :: ·)
  | .text, start, '\x7b' :: '%' :: rest => (scan .command [] rest).map (.text start.reverse :: ·)
  | .text, start, c :: rest => scan .text (c :: start) rest
  | .text, start, [] => some [.text start.reverse]
  | .value, start, '\x7d' :: '\x7d' :: rest =>
    (scan .text [] rest).map (.value (Text.trim start.reverse) :: ·)
  | .value, start, c :: rest => scan .value (c :: start) rest
  | .command, start, '%' :: '\x7d' :: rest =>
    (scan .text [] rest).map (commandOf start.reverse :: ·)
  | .command, start, c :: rest => scan .command (c :: start) rest
  | _, _, [] => none

/-- Whether the next token cuts off the blanks in front of it. -/
def cutsBefore : List Token → Bool
  | .command before _ _ :: _ => before
  | _ => false

/-- The tokens without the blanks that their commands cut off; `cut` tells whether the one in
front does. -/
def trimmed (cut : Bool) : List Token → List Token
  | [] => []
  | .text t :: rest =>
    let t := if cut then Text.trimStart t else t
    let t := if cutsBefore rest then Text.dropEndWhile Text.isBlank t else t
    .text t :: trimmed false rest
  | .value name :: rest => .value name :: trimmed false rest
  | .command before words after :: rest => .command before words after :: trimmed after rest

/-- A piece, or pieces that are there once for each value of a list. -/
inductive Part where
  | piece (p : Piece)
  | each (item list : Text) (body : List Piece)
deriving DecidableEq, Repr

/-- A loop that has not ended yet: its names, and its body backwards. -/
abbrev OpenLoop := Text × Text × List Piece

/-- Puts the tokens together to parts. -/
def partsFrom : Option OpenLoop → List Token → Option (List Part)
  | none, [] => some []
  | some _, [] => none
  | none, .text t :: rest => (partsFrom none rest).map (.piece (.text t) :: ·)
  | none, .value name :: rest => (partsFrom none rest).map (.piece (.value name) :: ·)
  | some (item, list, body), .text t :: rest => partsFrom (some (item, list, .text t :: body)) rest
  | some (item, list, body), .value name :: rest =>
    partsFrom (some (item, list, .value name :: body)) rest
  | none, .command _ words _ :: rest =>
    match words with
    | [opener, item, link, list] =>
      if opener = "for".toList ∧ link = "in".toList then partsFrom (some (item, list, [])) rest
      else none
    | _ => none
  | some (item, list, body), .command _ words _ :: rest =>
    if words = ["endfor".toList] then
      (partsFrom none rest).map (.each item list body.reverse :: ·)
    else none

/-- The parts of a template, if it can be read. -/
def read (template : Text) : Option (List Part) := do
  let tokens ← scan .text [] template
  partsFrom none (trimmed false tokens)

/-! ## Filling in -/

/-- A piece with its value; it has to have one, and one that is a text. -/
def Piece.fill (v : Values) : Piece → Option Text
  | .text t => some t
  | .value name =>
    match v.lookup name with
    | some (.text t) => some t
    | _ => none

/-- Pieces one after the other. -/
def fillAll (v : Values) (pieces : List Piece) : Option Text :=
  (pieces.mapM (Piece.fill v)).map List.flatten

/-- A part with its values.  In a loop the value of the turn comes before the others. -/
def Part.fill (v : Values) : Part → Option Text
  | .piece p => p.fill v
  | .each item list body =>
    match v.lookup list with
    | some (.list values) =>
      (values.mapM fun value => fillAll ((item, .text value) :: v) body).map List.flatten
    | _ => none

/-- The text that a template makes of the values. -/
def render (template : Text) (v : Values) : Option Text := do
  let parts ← read template
  let filled ← parts.mapM (Part.fill v)
  some filled.flatten

end StoryScript.Template
