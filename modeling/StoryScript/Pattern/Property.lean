/-
# `StoryScript.Pattern.Property` — the sets of characters that have a name

A pattern names a set by a letter, by a class of ASCII, or by a property of the
standard.  The name of a property is read loosely: case, blanks, hyphens and
underscores do not count, and neither does a leading `is`.

A property may be given by its value alone if it is a general category or a
script, and by its own name if it is one that a character has or has not.
-/
import StoryScript.Pattern.Syntax
import StoryScript.Text.Property
import StoryScript.Text.ScriptTable

namespace StoryScript.Pattern

open Text (CharSet CodeSet Category Named)

/-! ## Letters and classes of ASCII -/

/-- The characters of a class of ASCII. -/
def AsciiClass.set : AsciiClass → CharSet
  | .alnum => .codes ⟨[0x30, 0x3A, 0x41, 0x5B, 0x61, 0x7B]⟩
  | .alpha => .codes ⟨[0x41, 0x5B, 0x61, 0x7B]⟩
  | .ascii => .codes ⟨[0x00, 0x80]⟩
  | .blank => .codes ⟨[0x09, 0x0A, 0x20, 0x21]⟩
  | .cntrl => .codes ⟨[0x00, 0x20, 0x7F, 0x80]⟩
  | .digit => .codes ⟨[0x30, 0x3A]⟩
  | .graph => .codes ⟨[0x21, 0x7F]⟩
  | .lower => .codes ⟨[0x61, 0x7B]⟩
  | .print => .codes ⟨[0x20, 0x7F]⟩
  | .punct => .codes ⟨[0x21, 0x30, 0x3A, 0x41, 0x5B, 0x61, 0x7B, 0x7F]⟩
  | .space => .codes ⟨[0x09, 0x0E, 0x20, 0x21]⟩
  | .upper => .codes ⟨[0x41, 0x5B]⟩
  | .word => .codes ⟨[0x30, 0x3A, 0x41, 0x5B, 0x5F, 0x60, 0x61, 0x7B]⟩
  | .xdigit => .codes ⟨[0x30, 0x3A, 0x41, 0x47, 0x61, 0x67]⟩

/-- The characters of a class with a letter. -/
def LetterClass.set : LetterClass → CharSet
  | .digit => Category.decimalNumber.set
  | .space => .codes Text.TraitTable.whiteSpace
  | .word => Text.Property.word

/-- The characters of ASCII in a class with a letter. -/
def LetterClass.asciiSet : LetterClass → CharSet
  | .digit => AsciiClass.digit.set
  | .space => AsciiClass.space.set
  | .word => AsciiClass.word.set

/-! ## Properties -/

/-- A name without what does not count in it. -/
def looseName (name : Text) : String :=
  let isPrefixed := (name.take 2).map Char.toLower == ['i', 's']
  let body := if isPrefixed then name.drop 2 else name
  let kept := body.filter fun c => decide (c.toNat < 0x80) && c != ' ' && c != '_' && c != '-'
  let lower := kept.map Char.toLower
  if isPrefixed && lower == ['c'] then "isc" else String.ofList lower

/-- The categories that go by a name. -/
def categories? (name : String) : Option (List Category) :=
  ([ (["l", "letter"], Category.letters),
     (["lc", "casedletter"], Category.casedLetters),
     (["lu", "uppercaseletter"], [.uppercaseLetter]),
     (["ll", "lowercaseletter"], [.lowercaseLetter]),
     (["lt", "titlecaseletter"], [.titlecaseLetter]),
     (["lm", "modifierletter"], [.modifierLetter]),
     (["lo", "otherletter"], [.otherLetter]),
     (["m", "mark", "combiningmark"], Category.marks),
     (["mn", "nonspacingmark"], [.nonspacingMark]),
     (["mc", "spacingmark"], [.spacingMark]),
     (["me", "enclosingmark"], [.enclosingMark]),
     (["n", "number"], Category.numbers),
     (["nd", "decimalnumber", "digit"], [.decimalNumber]),
     (["nl", "letternumber"], [.letterNumber]),
     (["no", "othernumber"], [.otherNumber]),
     (["p", "punct", "punctuation"], Category.punctuation),
     (["pc", "connectorpunctuation"], [.connectorPunctuation]),
     (["pd", "dashpunctuation"], [.dashPunctuation]),
     (["ps", "openpunctuation"], [.openPunctuation]),
     (["pe", "closepunctuation"], [.closePunctuation]),
     (["pi", "initialpunctuation"], [.initialPunctuation]),
     (["pf", "finalpunctuation"], [.finalPunctuation]),
     (["po", "otherpunctuation"], [.otherPunctuation]),
     (["s", "symbol"], Category.symbols),
     (["sm", "mathsymbol"], [.mathSymbol]),
     (["sc", "currencysymbol"], [.currencySymbol]),
     (["sk", "modifiersymbol"], [.modifierSymbol]),
     (["so", "othersymbol"], [.otherSymbol]),
     (["z", "separator"], Category.separators),
     (["zs", "spaceseparator"], [.spaceSeparator]),
     (["zl", "lineseparator"], [.lineSeparator]),
     (["zp", "paragraphseparator"], [.paragraphSeparator]),
     (["c", "other"], Category.others),
     (["cc", "control", "cntrl"], [.control]),
     (["cf", "format"], [.format]),
     (["co", "privateuse"], [.privateUse]),
     (["cn", "unassigned"], [.unassigned]) ] : List (List String × List Category)).find?
    (·.1.contains name) |>.map (·.2)

/-- The names of the category that no character is of. -/
def surrogateNames : List String := ["cs", "surrogate"]

/-- The set that goes by the name of a general category, or by one of the three
names that are no categories but used like them. -/
def categorySet? (name : String) : Option (Except Cause CharSet) :=
  if name = "any" then some (.ok .full)
  else if name = "ascii" then some (.ok AsciiClass.ascii.set)
  else if name = "assigned" then some (.ok (.compl Category.unassigned.set))
  else if surrogateNames.contains name then some (.error .propertyValueUnknown)
  else (categories? name).map fun gs => .ok (Category.sets gs)

/-- The properties that are put together from categories, by their names. -/
def derivedSet? (name : String) : Option CharSet :=
  ([ (["alpha", "alphabetic"], Text.Property.alphabetic),
     (["cased"], Text.Property.cased),
     (["ci", "caseignorable"], Text.Property.caseIgnorable),
     (["grbase", "graphemebase"], Text.Property.graphemeBase),
     (["grext", "graphemeextend"], Text.Property.graphemeExtend),
     (["idc", "idcontinue"], Text.Property.idContinue),
     (["ids", "idstart"], Text.Property.idStart),
     (["lower", "lowercase"], Text.Property.lowercase),
     (["upper", "uppercase"], Text.Property.uppercase),
     (["xidc", "xidcontinue"], Text.Property.xidContinue),
     (["xids", "xidstart"], Text.Property.xidStart) ] : List (List String × CharSet)).find?
    (·.1.contains name) |>.map (·.2)

/-- The set of a property that a character has or has not. -/
def traitSet? (name : String) : Option CharSet :=
  derivedSet? name <|> (Text.named? Text.TraitTable.all name).map .codes

/-- The set of a script. -/
def scriptSet? (name : String) : Option CharSet :=
  (Text.named? Text.ScriptTable.all name).map .codes

/-- Names of general categories that are names of other properties as well. -/
def ambiguousNames : List String := ["cf", "sc", "lc"]

/-- The set that goes by a single name. -/
def namedSet (name : String) : Except Cause CharSet :=
  match if ambiguousNames.contains name then none else traitSet? name with
  | some s => .ok s
  | none =>
    match categorySet? name, scriptSet? name with
    | some answer, _ => answer
    | none, some s => .ok s
    | none, none => .error .propertyUnknown

/-- The set that goes by the name of a property and a value of it. -/
def valuedSet (name value : String) : Except Cause CharSet :=
  if ["gc", "generalcategory"].contains name then
    (categorySet? value).getD (.error .propertyValueUnknown)
  else if ["sc", "script", "scx", "scriptextensions"].contains name then
    match scriptSet? value with
    | some s => .ok s
    | none => .error .propertyValueUnknown
  else if (traitSet? name).isSome then .error .propertyValueUnknown
  else .error .propertyUnknown

/-- The set that a query asks for. -/
def Query.set : Query → Except Cause CharSet
  | .named name => namedSet (looseName name)
  | .valued name value => valuedSet (looseName name) (looseName value)

end StoryScript.Pattern
