/-
# `StoryScript.Text.Blank` — blank characters, and cutting them off a text

A script is handled as texts, and a text is the list of its characters: every
rule about a script — what a line means, what a scene is called, what is
written for a statement — is a rule about such lists, so no index and no byte
offset occurs in them.

Blank is the standard's property White_Space.  It is wider than ASCII's
blanks (the no-break space, the line separator) and narrower than what looks
empty: the zero-width space and the byte order mark are not blank.
-/

namespace StoryScript

/-- A text is the list of its characters. -/
abbrev Text := List Char

namespace Text

/-- The 25 characters of the property White_Space. -/
def isBlank (c : Char) : Bool :=
  let n := c.toNat
  (0x09 ≤ n && n ≤ 0x0D) || n == 0x20 || n == 0x85 || n == 0xA0 || n == 0x1680 ||
    (0x2000 ≤ n && n ≤ 0x200A) || n == 0x2028 || n == 0x2029 || n == 0x202F ||
    n == 0x205F || n == 0x3000

/-- The decimal digits of a natural number. -/
def digitsOf (n : Nat) : Text := Nat.toDigits 10 n

/-- The text without the longest run at its end that satisfies `p`. -/
def dropEndWhile (p : Char → Bool) (t : Text) : Text :=
  (t.reverse.dropWhile p).reverse

/-- The text without the blanks it starts with. -/
def trimStart (t : Text) : Text := t.dropWhile isBlank

/-- The text without the blanks at either end. -/
def trim (t : Text) : Text := dropEndWhile isBlank (trimStart t)

end Text

end StoryScript
