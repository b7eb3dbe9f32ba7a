/-
# `StoryScript.Text.Folding` — characters in lower case, and those that differ in case alone

Simple case folding maps each character to one that stands for all its case
variants.  Most of them fold to their lower case; the exceptions are small
letters with a second form, such as the final sigma and the long s.
-/
import StoryScript.Text.CaseTable

namespace StoryScript.Text

/-- Whether the run moves `n`. -/
def LowerRun.covers (r : LowerRun) (n : Nat) : Bool :=
  r.first ≤ n && n ≤ r.last && (n - r.first) % r.step == 0

/-- The image of a character on its own. -/
def lowerChar (c : Char) : Char :=
  match lowerRuns.find? (·.covers c.toNat) with
  | some r => Char.ofNat (r.image + (c.toNat - r.first))
  | none => c

/-- Small letters that fold to another one. -/
def foldExceptions : List (Char × Char) :=
  [ ('\u00B5', '\u03BC'), ('\u017F', 's'), ('\u0345', '\u03B9'), ('\u03C2', '\u03C3'),
    ('\u03D0', '\u03B2'), ('\u03D1', '\u03B8'), ('\u03D5', '\u03C6'), ('\u03D6', '\u03C0'),
    ('\u03F0', '\u03BA'), ('\u03F1', '\u03C1'), ('\u03F5', '\u03B5'), ('\u1C80', '\u0432'),
    ('\u1C81', '\u0434'), ('\u1C82', '\u043E'), ('\u1C83', '\u0441'), ('\u1C84', '\u0442'),
    ('\u1C85', '\u0442'), ('\u1C86', '\u044A'), ('\u1C87', '\u0463'), ('\u1C88', '\uA64B'),
    ('\u1E9B', '\u1E61'), ('\u1FBE', '\u03B9'), ('\u1FD3', '\u0390'), ('\u1FE3', '\u03B0'),
    ('\uFB05', '\uFB06') ]

/-- The character that stands for all case variants of a character. -/
def foldChar (c : Char) : Char :=
  match foldExceptions.find? (·.1 == c) with
  | some (_, image) => image
  | none => lowerChar c

/-- The capital that a run moves to a character, if there is one. -/
def LowerRun.preimage? (r : LowerRun) (c : Char) : Option Char :=
  let n := c.toNat - r.image + r.first
  if decide (r.image ≤ c.toNat) && r.covers n then some (Char.ofNat n) else none

/-- The characters that fold to the same one as `c`. -/
def caseVariants (c : Char) : List Char :=
  let image := foldChar c
  image :: lowerRuns.filterMap (·.preimage? image) ++
    (foldExceptions.filter (·.2 == image)).map (·.1)

end StoryScript.Text
