/-
# `StoryScript.Pattern.Syntax` — what a pattern says, part by part

A pattern is a tree of parts, each with the stretch that it was read from, so that
a fault found later can still be told with its place.  Nothing is understood yet:
what a letter means depends on the flags in force, and a property is a name.
-/
import StoryScript.Pattern.Fault

namespace StoryScript.Pattern

/-- A switch that a pattern turns on or off from some place on. -/
inductive Flag where
  | ignoreCase
  | multiLine
  | dotAll
  | swapGreed
  | unicode
  | crlf
  | loose
deriving DecidableEq, Repr

/-- What is said about flags, as it was written: those behind the first minus sign
are turned off. -/
inductive FlagItem where
  | minus
  | flag (f : Flag)
deriving DecidableEq, Repr

/-- What is said about one flag, if anything. -/
def FlagItem.state? (f : Flag) : Bool → List FlagItem → Option Bool
  | _, [] => none
  | _, .minus :: rest => state? f false rest
  | on, .flag g :: rest => if g = f then some on else state? f on rest

/-- A character, which may have been written as a byte of two hexadecimal digits. -/
structure Literal where
  span : Span
  char : Char
  isByte : Bool := false
deriving DecidableEq, Repr

/-- The three classes with a letter of their own. -/
inductive LetterClass where
  | digit
  | space
  | word
deriving DecidableEq, Repr

/-- The classes of ASCII characters that have a name in brackets. -/
inductive AsciiClass where
  | alnum
  | alpha
  | ascii
  | blank
  | cntrl
  | digit
  | graph
  | lower
  | print
  | punct
  | space
  | upper
  | word
  | xdigit
deriving DecidableEq, Repr

/-- A property that is asked for, by its name or with a value. -/
inductive Query where
  | named (name : Text)
  | valued (name value : Text)
deriving DecidableEq, Repr

/-- How two sets are taken together. -/
inductive SetOp where
  | inter
  | diff
  | symmDiff
deriving DecidableEq, Repr

/-- A set of characters. -/
inductive Class where
  | nothing (span : Span)
  | literal (l : Literal)
  | range (span : Span) (first last : Literal)
  | ascii (span : Span) (negated : Bool) (kind : AsciiClass)
  | letter (span : Span) (negated : Bool) (kind : LetterClass)
  | property (span : Span) (negated : Bool) (query : Query)
  | bracketed (span : Span) (negated : Bool) (inside : Class)
  | union (span : Span) (members : List Class)
  | op (span : Span) (kind : SetOp) (left right : Class)

/-- The stretch that a set was read from. -/
def Class.span : Class → Span
  | .nothing s => s
  | .literal l => l.span
  | .range s _ _ => s
  | .ascii s _ _ => s
  | .letter s _ _ => s
  | .property s _ _ => s
  | .bracketed s _ _ => s
  | .union s _ => s
  | .op s _ _ _ => s

/-- What is asked of a place between two characters. -/
inductive Assertion where
  | lineStart
  | lineEnd
  | textStart
  | textEnd
  | wordBoundary
  | noWordBoundary
  | wordStart
  | wordEnd
  | wordStartHalf
  | wordEndHalf
deriving DecidableEq, Repr

/-- A part of a pattern. -/
inductive Node where
  | nothing (span : Span)
  | flags (span : Span) (items : List FlagItem)
  | literal (l : Literal)
  | dot (span : Span)
  | assertion (span : Span) (a : Assertion)
  | set (c : Class)
  | repeated (span : Span) (least : Nat) (most? : Option Nat) (inside : Node)
  | group (span : Span) (items : List FlagItem) (inside : Node)
  | sequence (span : Span) (nodes : List Node)
  | choice (span : Span) (nodes : List Node)

/-- The stretch that a part was read from. -/
def Node.span : Node → Span
  | .nothing s => s
  | .flags s _ => s
  | .literal l => l.span
  | .dot s => s
  | .assertion s _ => s
  | .set c => c.span
  | .repeated s _ _ _ => s
  | .group s _ _ => s
  | .sequence s _ => s
  | .choice s _ => s

/-! ## Nesting

A part counts as one level if it holds others; a set in brackets counts, and so do
unions and operations in it. -/

mutual

/-- The first stretch of a set that lies too deep, `levels` being left. -/
def Class.tooDeep? : Class → Nat → Option Span
  | .bracketed s _ _, 0 => some s
  | .union s _, 0 => some s
  | .op s _ _ _, 0 => some s
  | .bracketed _ _ inside, levels + 1 => inside.tooDeep? levels
  | .union _ members, levels + 1 => Class.anyTooDeep? members levels
  | .op _ _ left right, levels + 1 => left.tooDeep? levels <|> right.tooDeep? levels
  | _, _ => none

/-- The first stretch of some sets that lies too deep. -/
def Class.anyTooDeep? : List Class → Nat → Option Span
  | [], _ => none
  | c :: rest, levels => c.tooDeep? levels <|> Class.anyTooDeep? rest levels

end

mutual

/-- The first stretch of a part that lies too deep, `levels` being left. -/
def Node.tooDeep? : Node → Nat → Option Span
  | .set c, levels => c.tooDeep? levels
  | .repeated s _ _ _, 0 => some s
  | .group s _ _, 0 => some s
  | .sequence s _, 0 => some s
  | .choice s _, 0 => some s
  | .repeated _ _ _ inside, levels + 1 => inside.tooDeep? levels
  | .group _ _ inside, levels + 1 => inside.tooDeep? levels
  | .sequence _ nodes, levels + 1 => Node.anyTooDeep? nodes levels
  | .choice _ nodes, levels + 1 => Node.anyTooDeep? nodes levels
  | _, _ => none

/-- The first stretch of some parts that lies too deep. -/
def Node.anyTooDeep? : List Node → Nat → Option Span
  | [], _ => none
  | n :: rest, levels => n.tooDeep? levels <|> Node.anyTooDeep? rest levels

end

end StoryScript.Pattern
