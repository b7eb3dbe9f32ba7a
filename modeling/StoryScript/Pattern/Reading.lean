/-
# `StoryScript.Pattern.Reading` — reading a pattern into its parts

A pattern is read from left to right, and the first thing that is wrong ends the
reading.  Groups nest, and so do sets of characters in brackets; a group or a set
that is still open at the end is told by its opening, the innermost one if there
are several.

With the flag `x` blanks and comments between the parts are passed over, also in
the middle of what would otherwise belong together.  The flag is in force from
where it is set to the end of its group, so the reader has to know it; all
other flags are only written down.

Every function that goes on as long as there are characters takes a number of
`turns`, one more than it could ever need.
-/
import StoryScript.Pattern.Syntax
import StoryScript.Text.Property

namespace StoryScript.Pattern

/-- How far the reading has come. -/
structure Reading where
  /-- What is unread. -/
  rest : Text
  /-- The number of characters that have been read. -/
  place : Nat := 0
  /-- Whether blanks and comments are passed over. -/
  loose : Bool := false
  /-- The names of groups, with their places. -/
  names : List (Text × Span) := []

/-- A reader of a part of a pattern. -/
abbrev Reader (α : Type) := StateT Reading (Except Fault) α

namespace Reader

/-! ## Single characters -/

/-- Ends the reading with a fault. -/
def fail {α : Type} (cause : Cause) (start stop : Nat) : Reader α :=
  throw ⟨cause, ⟨start, stop⟩, none⟩

/-- The place that has been reached. -/
def here : Reader Nat := return (← get).place

/-- The next character, if there is one. -/
def next? : Reader (Option Char) := return (← get).rest.head?

/-- Whether the next character is a given one. -/
def nextIs (c : Char) : Reader Bool := return (← get).rest.head? == some c

/-- Whether nothing is left. -/
def atEnd : Reader Bool := return (← get).rest.isEmpty

/-- Ends the reading with a fault of the place that has been reached. -/
def failHere {α : Type} (cause : Cause) : Reader α := do fail cause (← here) (← here)

/-- Ends the reading with a fault of the next character. -/
def failNext {α : Type} (cause : Cause) : Reader α := do fail cause (← here) ((← here) + 1)

/-- Passes over a number of characters. -/
def drop (n : Nat) : Reader Unit :=
  modify fun r => { r with rest := r.rest.drop n, place := r.place + (r.rest.take n).length }

/-- Passes over the characters at the front that satisfy `p`. -/
def dropWhile (p : Char → Bool) : Reader Unit := do drop ((← get).rest.takeWhile p).length

/-- The text without blanks and comments at its front. -/
def withoutBlanks (inComment : Bool) : Text → Text
  | [] => []
  | c :: rest =>
    if inComment then withoutBlanks (c != '\n') rest
    else if Text.isBlank c then withoutBlanks false rest
    else if c = '#' then withoutBlanks true rest
    else c :: rest

/-- Passes over blanks and comments where they do not count. -/
def dropBlanks : Reader Unit := do
  let r ← get
  if r.loose then drop (r.rest.length - (withoutBlanks false r.rest).length)

/-- Passes over a character and the blanks behind it. -/
def step : Reader Unit := do drop 1; dropBlanks

/-- Passes over a text if it comes next. -/
def dropText (t : Text) : Reader Bool := do
  if t.isPrefixOf (← get).rest then
    drop t.length
    return true
  else return false

/-- Passes over the first of some texts that comes next. -/
def dropAny : List Text → Reader Bool
  | [] => return false
  | t :: rest => do if ← dropText t then return true else dropAny rest

/-- The character after the next one, past blanks where they do not count.  The
newline at the end of a comment is a blank as well, so what comes after the sign
of the comment is taken for what comes next; and where nothing does, the
first blank is. -/
def afterNext? : Reader (Option Char) := do
  let r ← get
  let after := r.rest.drop 1
  if r.loose then
    let found := match after.dropWhile Text.isBlank with
      | '#' :: comment => comment.dropWhile Text.isBlank
      | other => other
    return if found = [] then after.head? else found.head?
  else return after.head?

/-! ## Escapes -/

/-- The characters that mean something in a pattern. -/
def marked : List Char := "\\.+*?()|[]\x7b\x7d^$#&-~".toList

/-- Whether a backslash before the character makes it stand for itself. -/
def standsForItself (c : Char) : Bool :=
  c ∈ marked || decide (c.toNat < 0x80) && !(c.isAlphanum) && c != '<' && c != '>'

/-- The control character with a letter. -/
def control? : Char → Option Char
  | 'a' => some '\x07'
  | 'f' => some '\x0C'
  | 't' => some '\t'
  | 'n' => some '\n'
  | 'r' => some '\r'
  | 'v' => some '\x0B'
  | _ => none

/-- The assertion with a letter. -/
def assertion? : Char → Option Assertion
  | 'A' => some .textStart
  | 'z' => some .textEnd
  | 'B' => some .noWordBoundary
  | '<' => some .wordStart
  | '>' => some .wordEnd
  | _ => none

/-- The class with a letter, and whether the letter is the one of its complement. -/
def letterClass? : Char → Option (Bool × LetterClass)
  | 'd' => some (false, .digit)
  | 's' => some (false, .space)
  | 'w' => some (false, .word)
  | 'D' => some (true, .digit)
  | 'S' => some (true, .space)
  | 'W' => some (true, .word)
  | _ => none

/-- The number of hexadecimal digits after a letter, where they are not in braces. -/
def hexWidth? : Char → Option Nat
  | 'x' => some 2
  | 'u' => some 4
  | 'U' => some 8
  | _ => none

/-- The value of a hexadecimal digit. -/
def hexValue? (c : Char) : Option Nat :=
  if c.isDigit then some (c.toNat - 0x30)
  else if 'a' ≤ c ∧ c ≤ 'f' then some (c.toNat - 0x57)
  else if 'A' ≤ c ∧ c ≤ 'F' then some (c.toNat - 0x37)
  else none

/-- Reads one hexadecimal digit, without passing over it. -/
def hexDigit : Reader Nat := do
  match ← next? with
  | none => failHere .escapeUnfinished
  | some c =>
    match hexValue? c with
    | some n => return n
    | none => failNext .hexDigit

/-- The literal of a code point, which must be that of a character. -/
def codePoint (start first stop : Nat) (isByte : Bool) (n : Nat) : Reader Node := do
  if h : n.isValidChar then
    return .literal ⟨⟨start, ← here⟩, Char.ofNatAux n h, isByte⟩
  else fail .hexNoCharacter first stop

/-- Reads a fixed number of hexadecimal digits. -/
def hexDigits : Nat → Nat → Reader Nat
  | 0, value => return value
  | more + 1, value => do
    let n ← hexDigit
    step
    hexDigits more (16 * value + n)

/-- Reads the hexadecimal digits up to a closing brace. -/
def hexUpToBrace : Nat → List Nat → Reader (List Nat)
  | 0, digits => return digits
  | turns + 1, digits => do
    step
    if (← atEnd) || (← nextIs '\x7d') then return digits
    let n ← hexDigit
    hexUpToBrace turns (digits ++ [n])

/-- Reads a character by its code point, at the letter behind the backslash. -/
def readHex (start width : Nat) : Reader Node := do
  step
  if ← atEnd then failHere .escapeUnfinished
  let first ← here
  if ← nextIs '\x7b' then
    let digits ← hexUpToBrace (← get).rest.length []
    if ← atEnd then fail .escapeUnfinished first (← here)
    let stop ← here
    step
    if digits = [] then fail .hexEmpty first (← here)
    codePoint start (first + 1) stop false (digits.foldl (fun v n => 16 * v + n) 0)
  else
    let n ← hexDigits width 0
    codePoint start first (← here) (width == 2) n

/-- A query, as it is written in braces. -/
def queryOf (t : Text) : Query :=
  match Text.splitAtText "!=".toList t, Text.splitAtText ":".toList t,
    Text.splitAtText "=".toList t with
  | some (name, value), _, _ => .valued name value
  | none, some (name, value), _ => .valued name value
  | none, none, some (name, value) => .valued name value
  | none, none, none => .named t

/-- Whether a query, as it is written in braces, asks for the complement. -/
def queryNegated (t : Text) : Bool := (Text.splitAtText "!=".toList t).isSome

/-- Reads the characters up to a closing brace. -/
def upToBrace : Nat → Text → Reader Text
  | 0, t => return t
  | turns + 1, t => do
    step
    match ← next? with
    | none => failHere .escapeUnfinished
    | some c => if c = '\x7d' then return t else upToBrace turns (t ++ [c])

/-- Reads a property, at the letter behind the backslash. -/
def readProperty (start : Nat) (negated : Bool) : Reader Node := do
  step
  match ← next? with
  | none => failHere .escapeUnfinished
  | some '\x7b' =>
    let t ← upToBrace ((← get).rest.length + 1) []
    drop 1
    return .set (.property ⟨start, ← here⟩ (negated != queryNegated t) (queryOf t))
  | some '\\' => failNext .propertyInvalid
  | some c =>
    step
    return .set (.property ⟨start, ← here⟩ negated (.named [c]))

/-- Whether a character may occur in the name of a boundary. -/
def inBoundaryName (c : Char) : Bool := c.isAlpha || c == '-'

/-- Reads the name of a boundary. -/
def boundaryName : Nat → Text → Reader Text
  | 0, t => return t
  | turns + 1, t => do
    match ← next? with
    | some c =>
      if inBoundaryName c then
        step
        boundaryName turns (t ++ [c])
      else return t
    | none => return t

/-- The boundary with a name. -/
def boundary? (name : Text) : Option Assertion :=
  if name = "start".toList then some .wordStart
  else if name = "end".toList then some .wordEnd
  else if name = "start-half".toList then some .wordStartHalf
  else if name = "end-half".toList then some .wordEndHalf
  else none

/-- Reads what is in braces behind the sign of a word boundary, unless it is the
count of a repetition. -/
def readBoundary? (start : Nat) : Reader (Option Assertion) := do
  let before ← get
  step
  match ← next? with
  | none => fail .boundaryOrRepetitionUnclosed start (← here)
  | some c =>
    if inBoundaryName c then
      let first ← here
      let name ← boundaryName (← get).rest.length []
      if ← nextIs '\x7d' then
        match boundary? name with
        | some a =>
          drop 1
          return some a
        | none => fail .boundaryUnknown first (← here)
      else fail .boundaryUnclosed before.place (← here)
    else
      set before
      return none

/-- Reads what stands behind a backslash, at the backslash. -/
def readEscape : Reader Node := do
  let start ← here
  drop 1
  match ← next? with
  | none => fail .escapeUnfinished start (← here)
  | some c =>
    if c.isDigit then fail .backreference start ((← here) + 1)
    else if let some width := hexWidth? c then readHex start width
    else if c = 'p' ∨ c = 'P' then readProperty start (c == 'P')
    else
      drop 1
      let span : Span := ⟨start, ← here⟩
      if let some (negated, kind) := letterClass? c then return .set (.letter span negated kind)
      else if standsForItself c then return .literal ⟨span, c, false⟩
      else if let some control := control? c then return .literal ⟨span, control, false⟩
      else if let some a := assertion? c then return .assertion span a
      else if c = 'b' then
        if ← nextIs '\x7b' then
          match ← readBoundary? start with
          | some a => return .assertion ⟨start, ← here⟩ a
          | none => return .assertion span .wordBoundary
        else return .assertion span .wordBoundary
      else fail .escapeUnknown span.start span.stop

/-! ## Sets of characters -/

/-- The members of a set so far, with the stretch that they take up. -/
structure Members where
  span : Span
  members : List Class := []

/-- The members with one more. -/
def Members.add (m : Members) (c : Class) : Members :=
  ⟨⟨if m.members.isEmpty then c.span.start else m.span.start, c.span.stop⟩, m.members ++ [c]⟩

/-- The set of the members. -/
def Members.toClass (m : Members) : Class :=
  match m.members with
  | [] => .nothing m.span
  | [c] => c
  | cs => .union m.span cs

/-- The set before an operation together with the one behind it. -/
def combined (before : Option (SetOp × Class)) (c : Class) : Class :=
  match before with
  | none => c
  | some (kind, left) => .op ⟨left.span.start, c.span.stop⟩ kind left c

/-- The ASCII class with a name. -/
def asciiClass? (name : Text) : Option AsciiClass :=
  ([ ("alnum", .alnum), ("alpha", .alpha), ("ascii", .ascii), ("blank", .blank),
     ("cntrl", .cntrl), ("digit", .digit), ("graph", .graph), ("lower", .lower),
     ("print", .print), ("punct", .punct), ("space", .space), ("upper", .upper),
     ("word", .word), ("xdigit", .xdigit) ] : List (String × AsciiClass)).find?
    (·.1 == String.ofList name) |>.map (·.2)

/-- Reads an ASCII class in its own brackets, if one comes next. -/
def readAscii? : Reader (Option Class) := do
  match (← get).rest with
  | '[' :: ':' :: rest =>
    let negated := rest.head? == some '^'
    let rest := if negated then rest.drop 1 else rest
    let name := rest.takeWhile (· != ':')
    match asciiClass? name, ":]".toList.isPrefixOf (rest.drop name.length) with
    | some kind, true =>
      let start ← here
      drop (name.length + if negated then 5 else 4)
      return some (.ascii ⟨start, ← here⟩ negated kind)
    | _, _ => return none
  | _ => return none

/-- Reads a character of a set or an escape. -/
def readMember : Reader Node := do
  match ← next? with
  | some '\\' => readEscape
  | some c =>
    let start ← here
    drop 1
    return .literal ⟨⟨start, start + 1⟩, c, false⟩
  | none => return .nothing ⟨← here, ← here⟩

/-- A part as the member of a set. -/
def asMember : Node → Reader Class
  | .literal l => return .literal l
  | .set c => return c
  | n => fail .classEscape n.span.start n.span.stop

/-- A part as the bound of a range. -/
def asBound : Node → Reader Literal
  | .literal l => return l
  | n => fail .boundInvalid n.span.start n.span.stop

/-- Reads a member of a set that has been opened, or a range. -/
def readRange (opened : Span) : Reader Class := do
  let first ← readMember
  dropBlanks
  if ← atEnd then fail .classUnclosed opened.start opened.stop
  let after ← afterNext?
  if !(← nextIs '-') || after == some ']' || after == some '-' then asMember first
  else
    step
    if ← atEnd then fail .classUnclosed opened.start opened.stop
    let last ← readMember
    let span : Span := ⟨first.span.start, last.span.stop⟩
    let first ← asBound first
    let last ← asBound last
    if last.char < first.char then fail .rangeBackwards span.start span.stop
    return .range span first last

/-- Reads hyphens at the front of a set. -/
def readHyphens (start : Nat) : Nat → Members → Reader Members
  | 0, m => return m
  | turns + 1, m => do
    if ← nextIs '-' then
      let place ← here
      step
      if ← atEnd then fail .classUnclosed start start
      readHyphens start turns (m.add (.literal ⟨⟨place, place + 1⟩, '-', false⟩))
    else return m

/-- Reads a closing bracket at the very front of a set, where it closes nothing. -/
def readLeadingBracket (start : Nat) (m : Members) : Reader Members := do
  if m.members.isEmpty && (← nextIs ']') then
    let place ← here
    step
    if ← atEnd then fail .classUnclosed start (← here)
    return m.add (.literal ⟨⟨place, place + 1⟩, ']', false⟩)
  else return m

/-- The operation whose sign comes next. -/
def nextOp? : Reader (Option SetOp) := do
  match (← get).rest with
  | '&' :: '&' :: _ => return some .inter
  | '-' :: '-' :: _ => return some .diff
  | '~' :: '~' :: _ => return some .symmDiff
  | _ => return none

mutual

/-- Reads a set in brackets, at the opening one. -/
def readBracketed : Nat → Reader Class
  | 0 => do return .nothing ⟨← here, ← here⟩
  | turns + 1 => do
    let start ← here
    step
    if ← atEnd then fail .classUnclosed start (← here)
    let negated ← nextIs '^'
    if negated then
      step
      if ← atEnd then fail .classUnclosed start (← here)
    let m ← readHyphens start (← get).rest.length ⟨⟨← here, ← here⟩, []⟩
    let m ← readLeadingBracket start m
    let inside ← readMembers turns ⟨start, ← here⟩ m none
    return .bracketed ⟨start, ← here⟩ negated inside

/-- Reads members up to the closing bracket. -/
def readMembers : Nat → Span → Members → Option (SetOp × Class) → Reader Class
  | 0, _, m, before => return combined before m.toClass
  | turns + 1, opened, m, before => do
    dropBlanks
    if ← atEnd then fail .classUnclosed opened.start opened.stop
    if ← nextIs ']' then
      drop 1
      return combined before m.toClass
    else if ← nextIs '[' then
      match ← readAscii? with
      | some c => readMembers turns opened (m.add c) before
      | none =>
        let c ← readBracketed turns
        readMembers turns opened (m.add c) before
    else match ← nextOp? with
      | some kind =>
        drop 2
        readMembers turns opened ⟨⟨← here, ← here⟩, []⟩ (some (kind, combined before m.toClass))
      | none =>
        let c ← readRange opened
        readMembers turns opened (m.add c) before

end

/-! ## Repetitions -/

/-- The part that is repeated, which must not be missing. -/
def repeatable : List Node → Reader (Node × List Node)
  | [] => failHere .repetitionOfNothing
  | .nothing _ :: _ => failHere .repetitionOfNothing
  | .flags _ _ :: _ => failHere .repetitionOfNothing
  | node :: before => return (node, before)

/-- Passes over the sign that few are preferred, which makes no difference to
whether a text matches. -/
def dropPreference : Reader Unit := do let _ ← dropText "?".toList

/-- Reads decimal digits. -/
def decimalDigits : Nat → Text → Reader Text
  | 0, t => return t
  | turns + 1, t => do
    match ← next? with
    | some c =>
      if c.isDigit then
        step
        decimalDigits turns (t ++ [c])
      else return t
    | none => return t

/-- The largest number of times that can be asked for. -/
def maxCount : Nat := 4294967295

/-- Reads a number of times.  What is wrong with it is kept for later, since it
may be told after something else. -/
def readCount : Reader (Except Fault Nat) := do
  dropWhile Text.isBlank
  let start ← here
  let digits ← decimalDigits (← get).rest.length []
  let span : Span := ⟨start, ← here⟩
  dropWhile Text.isBlank
  let n := digits.foldl (fun v c => 10 * v + (c.toNat - 0x30)) 0
  if digits = [] then return .error ⟨.countEmpty, span, none⟩
  else if n > maxCount then return .error ⟨.countInvalid, span, none⟩
  else return .ok n

/-- Takes a number of times that has been read. -/
def settle (count : Except Fault Nat) : Reader Nat :=
  match count with
  | .ok n => return n
  | .error f => throw f

/-- Reads the numbers in braces, at the opening one. -/
def readBraces : Reader (Nat × Option Nat) := do
  let start ← here
  step
  if ← atEnd then fail .countUnclosed start (← here)
  let least ← readCount
  if ← atEnd then fail .countUnclosed start (← here)
  let range ← if ← nextIs ',' then do
      step
      if ← atEnd then fail .countUnclosed start (← here)
      if ← nextIs '\x7d' then pure (← settle least, none)
      else
        let least ← settle least
        let most ← settle (← readCount)
        pure (least, some most)
    else do
      let n ← settle least
      pure (n, some n)
  if !(← nextIs '\x7d') then fail .countUnclosed start (← here)
  step
  dropPreference
  if let some most := range.2 then
    if most < range.1 then fail .countRange start (← here)
  return range

/-- Reads a sign of repetition and repeats the last part. -/
def readRepetition (c : Char) (nodes : List Node) : Reader (List Node) := do
  let (node, before) ← repeatable nodes
  let (least, most?) ← match c with
    | '?' => do drop 1; dropPreference; pure (0, some 1)
    | '*' => do drop 1; dropPreference; pure (0, none)
    | '+' => do drop 1; dropPreference; pure (1, none)
    | _ => readBraces
  return .repeated ⟨node.span.start, ← here⟩ least most? node :: before

/-! ## Groups -/

/-- Whether a character may occur in the name of a group. -/
def inGroupName (isFirst : Bool) (c : Char) : Bool :=
  c == '_' || Text.Property.alphabetic.contains c ||
    !isFirst && (c == '.' || c == '[' || c == ']' ||
      (Text.Category.sets Text.Category.numbers).contains c)

/-- Reads the characters of a group's name. -/
def nameCharacters : Nat → Text → Reader Text
  | 0, t => return t
  | turns + 1, t => do
    match ← next? with
    | none => failHere .groupNameUnclosed
    | some '>' => return t
    | some c =>
      if inGroupName t.isEmpty c then
        drop 1
        nameCharacters turns (t ++ [c])
      else failNext .groupNameInvalid

/-- Reads the name of a group, which no earlier one may have. -/
def readName : Reader Unit := do
  let start ← here
  let name ← nameCharacters ((← get).rest.length + 1) []
  let span : Span := ⟨start, ← here⟩
  drop 1
  if name = [] then fail .groupNameEmpty start start
  match (← get).names.find? (·.1 == name) with
  | some (_, earlier) => throw ⟨.groupNameDuplicate, span, some earlier⟩
  | none => modify fun r => { r with names := r.names ++ [(name, span)] }

/-- The flag with a letter. -/
def flag? : Char → Option Flag
  | 'i' => some .ignoreCase
  | 'm' => some .multiLine
  | 's' => some .dotAll
  | 'U' => some .swapGreed
  | 'u' => some .unicode
  | 'R' => some .crlf
  | 'x' => some .loose
  | _ => none

/-- Reads one flag or the minus sign. -/
def readFlag (c : Char) : Reader FlagItem :=
  if c = '-' then return .minus
  else match flag? c with
    | some f => return .flag f
    | none => failNext .flagUnknown

/-- Reads flags up to a colon or a closing parenthesis. -/
def readFlags : Nat → List (FlagItem × Nat) → Reader (List FlagItem)
  | 0, items => return items.map (·.1)
  | turns + 1, items => do
    match ← next? with
    | none => failHere .flagUnfinished
    | some c =>
      if c = ':' ∨ c = ')' then
        match items.getLast? with
        | some (.minus, place) => fail .flagDangling place (place + 1)
        | _ => return items.map (·.1)
      else
        let place ← here
        let item ← readFlag c
        match items.find? (·.1 == item) with
        | some (_, earlier) =>
          let cause := if item = .minus then Cause.flagNegatedTwice else .flagDuplicate
          throw ⟨cause, ⟨place, place + 1⟩, some ⟨earlier, earlier + 1⟩⟩
        | none =>
          drop 1
          readFlags turns (items ++ [(item, place)])

/-- Puts the flag for blanks in force, if something is said about it. -/
def applyLoose (items : List FlagItem) : Reader Unit :=
  modify fun r => { r with loose := (FlagItem.state? .loose true items).getD r.loose }

/-- The starts of what looks around a place. -/
def lookArounds : List Text := ["?=".toList, "?!".toList, "?<=".toList, "?<!".toList]

/-- What the parts of a sequence, read backwards, come to. -/
def sequenceOf (start stop : Nat) : List Node → Node
  | [] => .nothing ⟨start, stop⟩
  | [n] => n
  | ns => .sequence ⟨start, stop⟩ ns.reverse

/-- Whether a character ends a sequence. -/
def endsSequence (c : Char) : Bool := c == '|' || c == ')'

/-- Reads a part that is neither a group nor a set in brackets nor a repetition. -/
def readSingle (c : Char) : Reader Node := do
  let start ← here
  match c with
  | '\\' => readEscape
  | '.' =>
    drop 1
    return .dot ⟨start, start + 1⟩
  | '^' =>
    drop 1
    return .assertion ⟨start, start + 1⟩ .lineStart
  | '$' =>
    drop 1
    return .assertion ⟨start, start + 1⟩ .lineEnd
  | c =>
    drop 1
    return .literal ⟨⟨start, start + 1⟩, c, false⟩

mutual

/-- Reads parts up to a bar, a closing parenthesis or the end; `nodes` are the ones
before, read backwards. -/
def readSequence : Nat → Nat → List Node → Reader Node
  | 0, start, nodes => return sequenceOf start (← here) nodes
  | turns + 1, start, nodes => do
    dropBlanks
    match ← next? with
    | none => return sequenceOf start (← here) nodes
    | some c =>
      if endsSequence c then return sequenceOf start (← here) nodes
      else if c = '(' then
        let node ← readGroup turns
        readSequence turns start (node :: nodes)
      else if c = '[' then
        let set ← readBracketed (2 * (← get).rest.length)
        readSequence turns start (.set set :: nodes)
      else if c = '?' ∨ c = '*' ∨ c = '+' ∨ c = '\x7b' then
        let nodes ← readRepetition c nodes
        readSequence turns start nodes
      else
        let node ← readSingle c
        readSequence turns start (node :: nodes)

/-- Reads the branches from a bar on. -/
def readBranches : Nat → Reader (List Node)
  | 0 => return []
  | turns + 1 => do
    if ← nextIs '|' then
      drop 1
      let branch ← readSequence turns (← here) []
      return branch :: (← readBranches turns)
    else return []

/-- Reads branches up to a closing parenthesis or the end. -/
def readChoice : Nat → Reader Node
  | 0 => do return .nothing ⟨← here, ← here⟩
  | turns + 1 => do
    let start ← here
    let first ← readSequence turns start []
    match ← readBranches turns with
    | [] => return first
    | rest => return .choice ⟨start, ← here⟩ (first :: rest)

/-- Reads the inside of a group and its closing parenthesis. -/
def readInside : Nat → Nat → List FlagItem → Reader Node
  | 0, start, _ => return .nothing ⟨start, ← here⟩
  | turns + 1, start, items => do
    let outside := (← get).loose
    applyLoose items
    let inside ← readChoice turns
    if ← atEnd then fail .groupUnclosed start (start + 1)
    modify fun r => { r with loose := outside }
    drop 1
    return .group ⟨start, ← here⟩ items inside

/-- Reads a group or flags, at the opening parenthesis. -/
def readGroup : Nat → Reader Node
  | 0 => do return .nothing ⟨← here, ← here⟩
  | turns + 1 => do
    let start ← here
    step
    if ← dropAny lookArounds then fail .lookAround start (← here)
    let inner ← here
    if ← dropAny ["?P<".toList, "?<".toList] then
      readName
      readInside turns start []
    else if ← dropText "?".toList then
      if ← atEnd then fail .groupUnclosed start (start + 1)
      let items ← readFlags ((← get).rest.length + 1) []
      let closed ← nextIs ')'
      drop 1
      if closed then
        if items = [] then fail .repetitionOfNothing inner inner
        applyLoose items
        return .flags ⟨start, ← here⟩ items
      else readInside turns start items
    else readInside turns start []

end

/-- Reads a whole pattern. -/
def readAll (turns : Nat) : Reader Node := do
  let node ← readChoice turns
  if !(← atEnd) then failNext .groupUnopened
  match node.tooDeep? maxNesting with
  | some s => fail .nestedTooDeep s.start s.stop
  | none => return node

end Reader

/-- The parts of a pattern, if it can be read. -/
def Node.ofText (pattern : Text) : Except Fault Node :=
  match (Reader.readAll (4 * pattern.length + 4)).run { rest := pattern } with
  | .ok (node, _) => .ok node
  | .error f => .error f

end StoryScript.Pattern
