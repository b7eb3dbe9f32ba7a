/-
# `StoryScript.Text.Property` — properties of characters

The properties of the standard that are told by the category of a character and
a list of exceptions.
-/
import StoryScript.Text.Category
import StoryScript.Text.PropertyTable
import StoryScript.Text.TraitTable

namespace StoryScript.Text.Property

/-- The property Lowercase. -/
def lowercase : CharSet :=
  .union Category.lowercaseLetter.set (.codes PropertyTable.otherLowercase)

/-- The property Uppercase. -/
def uppercase : CharSet :=
  .union Category.uppercaseLetter.set (.codes PropertyTable.otherUppercase)

/-- The property Cased. -/
def cased : CharSet := .unions [lowercase, uppercase, Category.titlecaseLetter.set]

/-- The property Case_Ignorable: marks of no width, modifiers, what only affects
layout, and what may stand in the middle of a word. -/
def caseIgnorable : CharSet :=
  .union
    (Category.sets [.nonspacingMark, .enclosingMark, .format, .modifierLetter, .modifierSymbol])
    (.codes PropertyTable.inWords)

/-- The property Alphabetic. -/
def alphabetic : CharSet :=
  .union (Category.sets (.letterNumber :: Category.letters))
    (.codes PropertyTable.otherAlphabetic)

/-- The property Grapheme_Extend. -/
def graphemeExtend : CharSet :=
  .union (Category.sets [.nonspacingMark, .enclosingMark])
    (.codes PropertyTable.otherGraphemeExtend)

/-- The property Grapheme_Base. -/
def graphemeBase : CharSet :=
  .compl (.union (Category.sets (.lineSeparator :: .paragraphSeparator :: Category.others))
    graphemeExtend)

/-- What patterns are written with, which is no part of an identifier. -/
def patternWriting : CharSet :=
  .union (.codes TraitTable.patternSyntax) (.codes TraitTable.patternWhiteSpace)

/-- The property ID_Start. -/
def idStart : CharSet :=
  .diff (.union (Category.sets (.letterNumber :: Category.letters))
    (.codes TraitTable.otherIdStart)) patternWriting

/-- The property ID_Continue. -/
def idContinue : CharSet :=
  .diff (.unions [idStart, .codes TraitTable.otherIdContinue,
    Category.sets [.nonspacingMark, .spacingMark, .decimalNumber, .connectorPunctuation]])
    patternWriting

/-- The property XID_Start. -/
def xidStart : CharSet := .diff idStart (.codes PropertyTable.unstableAtStart)

/-- The property XID_Continue. -/
def xidContinue : CharSet := .diff idContinue (.codes PropertyTable.unstable)

/-- What words are made of: the alphabetic characters, marks, digits, connectors and
joiners. -/
def word : CharSet :=
  .unions [alphabetic, Category.sets (.decimalNumber :: .connectorPunctuation :: Category.marks),
    .codes TraitTable.joinControl]

/-- Letters that stand for the absence of one. -/
def fillers : CodeSet :=
  ⟨[0x115F, 0x1161, 0x3164, 0x3165, 0xFFA0, 0xFFA1]⟩

/-- The marks of voiced sounds at half width, which stand by themselves. -/
def halfwidthMarks : CharSet := .range '\uFF9E' '\uFF9F'

/-- The characters that show nothing of their own, or would melt into the one
before them. -/
def invisible : CharSet :=
  .unions [ .diff (Category.sets (Category.separators ++ Category.others)) (.single ' '),
    .codes fillers, .diff graphemeExtend halfwidthMarks ]

end StoryScript.Text.Property
