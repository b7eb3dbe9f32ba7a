/-
# `StoryScript.Pattern.Meaning` — from the parts of a pattern to what they match

The parts of a pattern are gone through from left to right with the flags in
force.  A group puts the flags back that were in force before it.

Without the flag `u` a pattern is about bytes instead of characters.  It must match
whole characters all the same, so it may only say then what concerns ASCII.
-/
import StoryScript.Pattern.Expression

namespace StoryScript.Pattern

open Text (CharSet)

/-- The flags in force. -/
structure Flags where
  ignoreCase : Bool := false
  multiLine : Bool := false
  dotAll : Bool := false
  unicode : Bool := true
  crlf : Bool := false
deriving DecidableEq, Repr

/-- The flags with what is said about them. -/
def Flags.apply (f : Flags) (items : List FlagItem) : Flags :=
  let now := fun (flag : Flag) (before : Bool) => (FlagItem.state? flag true items).getD before
  { ignoreCase := now .ignoreCase f.ignoreCase
    multiLine := now .multiLine f.multiLine
    dotAll := now .dotAll f.dotAll
    unicode := now .unicode f.unicode
    crlf := now .crlf f.crlf }

/-- What goes wrong, if it is not in order. -/
def demand (inOrder : Bool) (cause : Cause) (span : Span) : Except Fault Unit :=
  if inOrder then .ok () else .error ⟨cause, span, none⟩

namespace Flags

/-- The set with case variants, if case is ignored. -/
def fold (f : Flags) (s : CharSet) : CharSet :=
  if f.ignoreCase then if f.unicode then .folded s else .foldedAscii s else s

/-- The set with case variants, and then its complement if that is asked for.  Of
bytes there is no complement, since it would have parts of characters. -/
def closed (f : Flags) (span : Span) (negated : Bool) (s : CharSet) : Except Fault CharSet := do
  demand (f.unicode || !negated) .byteInvalid span
  return .negatedIf negated (f.fold s)

/-- Whether a literal may stand for its character: a byte beyond ASCII may not. -/
def checkByte (f : Flags) (l : Literal) : Except Fault Unit :=
  demand (f.unicode || !l.isByte || decide (l.char.toNat < 0x80)) .byteInvalid l.span

/-- Whether a literal may be a member of a set. -/
def checkMember (f : Flags) (l : Literal) : Except Fault Unit := do
  f.checkByte l
  demand (f.unicode || decide (l.char.toNat < 0x80)) .unicodeOff l.span

/-- The characters that words are made of. -/
def word (f : Flags) : CharSet :=
  if f.unicode then LetterClass.word.set else LetterClass.word.asciiSet

/-- What an assertion asks for. -/
def look (f : Flags) : Assertion → Look
  | .lineStart => if f.multiLine then .lineStart f.crlf else .textStart
  | .lineEnd => if f.multiLine then .lineEnd f.crlf else .textEnd
  | .textStart => .textStart
  | .textEnd => .textEnd
  | .wordBoundary => .wordBoundary f.word
  | .noWordBoundary => .noWordBoundary f.word
  | .wordStart => .wordStart f.word
  | .wordEnd => .wordEnd f.word
  | .wordStartHalf => .wordStartHalf f.word
  | .wordEndHalf => .wordEndHalf f.word

/-- What a dot stands for. -/
def dot (f : Flags) : CharSet :=
  if f.dotAll then .full
  else if f.crlf then .compl (.codes ⟨[0x0A, 0x0B, 0x0D, 0x0E]⟩)
  else .compl (.single '\n')

end Flags

/-- Two sets taken together. -/
def SetOp.apply : SetOp → CharSet → CharSet → CharSet
  | .inter => .inter
  | .diff => .diff
  | .symmDiff => .symmDiff

mutual

/-- The characters of a set. -/
def Class.set (f : Flags) : Class → Except Fault CharSet
  | .nothing _ => .ok .empty
  | .literal l => do
    f.checkMember l
    return .single l.char
  | .range _ first last => do
    f.checkMember first
    f.checkMember last
    return .range first.char last.char
  | .ascii span negated kind => f.closed span negated kind.set
  | .letter span negated kind => do
    demand (f.unicode || !negated) .byteInvalid span
    return .negatedIf negated (if f.unicode then kind.set else kind.asciiSet)
  | .property span negated query => do
    demand f.unicode .unicodeOff span
    match query.set with
    | .ok s => f.closed span negated s
    | .error cause => .error ⟨cause, span, none⟩
  | .bracketed span negated inside => do f.closed span negated (← inside.set f)
  | .union _ members => do return .unions (← Class.sets f members)
  | .op _ kind left right => do
    let left ← left.set f
    let right ← right.set f
    return kind.apply (f.fold left) (f.fold right)

/-- The characters of some sets. -/
def Class.sets (f : Flags) : List Class → Except Fault (List CharSet)
  | [] => .ok []
  | c :: rest => do return (← c.set f) :: (← Class.sets f rest)

end

mutual

/-- What a part matches, and the flags behind it. -/
def Node.meaning (f : Flags) : Node → Except Fault (Expression × Flags)
  | .nothing _ => .ok (.nothing, f)
  | .flags _ items => .ok (.nothing, f.apply items)
  | .literal l => do
    f.checkByte l
    return (.set (f.fold (.single l.char)), f)
  | .dot span => do
    demand f.unicode .byteInvalid span
    return (.set f.dot, f)
  | .assertion _ a => .ok (.look (f.look a), f)
  | .set c => do return (.set (← c.set f), f)
  | .repeated _ least most? inside => do
    let (e, f) ← inside.meaning f
    return (.repeated least most? e, f)
  | .group _ items inside => do
    let (e, _) ← inside.meaning (f.apply items)
    return (e, f)
  | .sequence _ nodes => do
    let (es, f) ← Node.meanings f nodes
    return (.sequences es, f)
  | .choice _ nodes => do
    let (es, f) ← Node.meanings f nodes
    return (.choices es, f)

/-- What parts match one after the other, and the flags behind them. -/
def Node.meanings (f : Flags) : List Node → Except Fault (List Expression × Flags)
  | [] => .ok ([], f)
  | n :: rest => do
    let (e, f) ← n.meaning f
    let (es, f) ← Node.meanings f rest
    return (e :: es, f)

end

end StoryScript.Pattern
