/-
# `StoryScript.Text.Category` — the general category of a character

Every code point has one category of the standard: a kind of letter, mark,
numeral, punctuation, symbol or separator, or something that is no character of
a text.  A character is never a surrogate, so that category is empty here, and
it is unassigned when no other category has it.
-/
import StoryScript.Text.CategoryTable
import StoryScript.Text.CharSet

namespace StoryScript.Text

/-- The general categories. -/
inductive Category where
  | uppercaseLetter
  | lowercaseLetter
  | titlecaseLetter
  | modifierLetter
  | otherLetter
  | nonspacingMark
  | spacingMark
  | enclosingMark
  | decimalNumber
  | letterNumber
  | otherNumber
  | connectorPunctuation
  | dashPunctuation
  | openPunctuation
  | closePunctuation
  | initialPunctuation
  | finalPunctuation
  | otherPunctuation
  | mathSymbol
  | currencySymbol
  | modifierSymbol
  | otherSymbol
  | spaceSeparator
  | lineSeparator
  | paragraphSeparator
  | control
  | format
  | surrogate
  | privateUse
  | unassigned
deriving DecidableEq, Repr

namespace Category

/-- The categories that have characters of their own. -/
def assigned : List Category :=
  [ .uppercaseLetter, .lowercaseLetter, .titlecaseLetter, .modifierLetter, .otherLetter,
    .nonspacingMark, .spacingMark, .enclosingMark, .decimalNumber, .letterNumber, .otherNumber,
    .connectorPunctuation, .dashPunctuation, .openPunctuation, .closePunctuation,
    .initialPunctuation, .finalPunctuation, .otherPunctuation, .mathSymbol, .currencySymbol,
    .modifierSymbol, .otherSymbol, .spaceSeparator, .lineSeparator, .paragraphSeparator, .control,
    .format, .privateUse ]

/-- The characters of a category that has characters of its own. -/
def listed : Category → CodeSet
  | .uppercaseLetter => CategoryTable.uppercaseLetter
  | .lowercaseLetter => CategoryTable.lowercaseLetter
  | .titlecaseLetter => CategoryTable.titlecaseLetter
  | .modifierLetter => CategoryTable.modifierLetter
  | .otherLetter => CategoryTable.otherLetter
  | .nonspacingMark => CategoryTable.nonspacingMark
  | .spacingMark => CategoryTable.spacingMark
  | .enclosingMark => CategoryTable.enclosingMark
  | .decimalNumber => CategoryTable.decimalNumber
  | .letterNumber => CategoryTable.letterNumber
  | .otherNumber => CategoryTable.otherNumber
  | .connectorPunctuation => CategoryTable.connectorPunctuation
  | .dashPunctuation => CategoryTable.dashPunctuation
  | .openPunctuation => CategoryTable.openPunctuation
  | .closePunctuation => CategoryTable.closePunctuation
  | .initialPunctuation => CategoryTable.initialPunctuation
  | .finalPunctuation => CategoryTable.finalPunctuation
  | .otherPunctuation => CategoryTable.otherPunctuation
  | .mathSymbol => CategoryTable.mathSymbol
  | .currencySymbol => CategoryTable.currencySymbol
  | .modifierSymbol => CategoryTable.modifierSymbol
  | .otherSymbol => CategoryTable.otherSymbol
  | .spaceSeparator => CategoryTable.spaceSeparator
  | .lineSeparator => CategoryTable.lineSeparator
  | .paragraphSeparator => CategoryTable.paragraphSeparator
  | .control => CategoryTable.control
  | .format => CategoryTable.format
  | .privateUse => CategoryTable.privateUse
  | .surrogate => ⟨[]⟩
  | .unassigned => ⟨[]⟩

/-- The characters of a category. -/
def set : Category → CharSet
  | .unassigned => .compl (.unions (assigned.map fun g => .codes g.listed))
  | g => .codes g.listed

/-- The characters of some categories. -/
def sets (gs : List Category) : CharSet := .unions (gs.map Category.set)

/-- Small, capital and mixed letters. -/
def casedLetters : List Category := [.uppercaseLetter, .lowercaseLetter, .titlecaseLetter]

/-- The letters. -/
def letters : List Category := casedLetters ++ [.modifierLetter, .otherLetter]

/-- The marks. -/
def marks : List Category := [.nonspacingMark, .spacingMark, .enclosingMark]

/-- The numerals. -/
def numbers : List Category := [.decimalNumber, .letterNumber, .otherNumber]

/-- Punctuation. -/
def punctuation : List Category :=
  [ .connectorPunctuation, .dashPunctuation, .openPunctuation, .closePunctuation,
    .initialPunctuation, .finalPunctuation, .otherPunctuation ]

/-- The symbols. -/
def symbols : List Category := [.mathSymbol, .currencySymbol, .modifierSymbol, .otherSymbol]

/-- The separators. -/
def separators : List Category := [.spaceSeparator, .lineSeparator, .paragraphSeparator]

/-- What is no character of a text. -/
def others : List Category := [.control, .format, .surrogate, .privateUse, .unassigned]

end Category

end StoryScript.Text
