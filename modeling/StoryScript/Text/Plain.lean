/-
# `StoryScript.Text.Plain` — a text without its control sequences

A terminal takes some characters as orders: an escape character begins a
sequence that sets a colour, moves the cursor or names the window.  What is
meant for a reader is shown without them, by following a text the way a terminal
does and keeping what it would print, together with the blanks that it would obey.

A terminal is `ground`ed or in the middle of a sequence:

    ground ─ ESC ─ escape ─┬─ [ ─ control ...         until a letter or the like
                           ├─ P ─ device ... ─ data   until the next escape
                           ├─ ] ─ command             until a bell
                           ├─ X ^ _ ─ string          until the next escape
                           └─ anything else           at once, or after blanks

Blanks are obeyed even within a sequence, and from the first one on the
characters show until the next one that does not; the sequence goes on only
then.  This is as the stripping is done, not as a terminal would do it.
-/
import StoryScript.Text.Split

namespace StoryScript.Text

/-- How far a control sequence has come. -/
inductive Sequence where
  | ground
  | escape
  | escapeMiddle
  | controlStart
  | controlParameter
  | controlMiddle
  | controlIgnored
  | deviceStart
  | deviceParameter
  | deviceMiddle
  | deviceIgnored
  | deviceData
  | command
  | string
deriving DecidableEq, Repr

namespace Sequence

/-- Where a graphic character leads, by its code; a character that leads nowhere
leaves the sequence as it is. -/
def graphic : Sequence → Nat → Sequence
  | .ground, _ => .ground
  | .escape, n =>
    if n < 0x30 then .escapeMiddle
    else if n = 0x50 then .deviceStart
    else if n = 0x58 ∨ n = 0x5E ∨ n = 0x5F then .string
    else if n = 0x5B then .controlStart
    else if n = 0x5D then .command
    else .ground
  | .escapeMiddle, n => if n < 0x30 then .escapeMiddle else .ground
  | .controlStart, n =>
    if n < 0x30 then .controlMiddle else if n < 0x40 then .controlParameter else .ground
  | .controlParameter, n =>
    if n < 0x30 then .controlMiddle
    else if n < 0x3C then .controlParameter
    else if n < 0x40 then .controlIgnored
    else .ground
  | .controlMiddle, n =>
    if n < 0x30 then .controlMiddle else if n < 0x40 then .controlIgnored else .ground
  | .controlIgnored, n => if n < 0x40 then .controlIgnored else .ground
  | .deviceStart, n =>
    if n < 0x30 then .deviceMiddle else if n < 0x40 then .deviceParameter else .deviceData
  | .deviceParameter, n =>
    if n < 0x30 then .deviceMiddle
    else if n < 0x3C then .deviceParameter
    else if n < 0x40 then .deviceIgnored
    else .deviceData
  | .deviceMiddle, n =>
    if n < 0x30 then .deviceMiddle else if n < 0x40 then .deviceIgnored else .deviceData
  | s, _ => s

/-- Whether the byte 9C, which ends a string on its own, ends the sequence. -/
def endsAtByte : Sequence → Bool
  | .deviceIgnored | .deviceData | .string => true
  | _ => false

/-- Where a character leads. -/
def after (s : Sequence) (c : Char) : Sequence :=
  let n := c.toNat
  if n = 0x18 ∨ n = 0x1A then .ground
  else if n = 0x1B then .escape
  else if n = 0x07 ∧ s = .command then .ground
  else if n < 0x20 ∨ n = 0x7F then s
  else if n < 0x7F then s.graphic n
  else if s.endsAtByte ∧ 0x9C ∈ String.utf8EncodeChar c then .ground
  else s

/-- Whether blanks are obeyed in the middle of the sequence. -/
def obeysBlanks : Sequence → Bool
  | .ground | .escape | .escapeMiddle | .controlStart | .controlParameter | .controlMiddle
  | .controlIgnored => true
  | _ => false

/-- Whether a character shows. -/
def shows (s : Sequence) (c : Char) : Bool :=
  s.obeysBlanks && (c == '\t' || c == '\n' || c == '\x0C' || c == '\r') ||
    s == .ground && (decide (0x20 ≤ c.toNat) && c != '\x7F')

end Sequence

/-- What shows of a text after a sequence has begun; `showing` tells whether the
character before did show. -/
def plainFrom (s : Sequence) (showing : Bool) : Text → Text
  | [] => []
  | c :: rest =>
    if (if showing then Sequence.ground else s).shows c then
      c :: plainFrom (if c.toNat < 0x80 then s else .ground) true rest
    else plainFrom (s.after c) false rest

/-- The text without its control sequences. -/
def plain (t : Text) : Text := plainFrom .ground true t

end StoryScript.Text
