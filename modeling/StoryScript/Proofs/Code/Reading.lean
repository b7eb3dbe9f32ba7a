/-
# `StoryScript.Proofs.Code.Reading` — what a scene does, read off its class

The class of a scene is read back here, as somebody would read it who knows how it is
laid out but not the script it was made from:

    name      between `public class ` and ` : MonoBehaviour {`
    spoken    Dialog.speaker("literal"); or Dialog.speaker("literal", reverb: true);
    pause     Tale.Wait();
    comment   // text

What is read is the scene as it was written (`readScene_sceneClass`).  Utterances and
comments are any text, so they may hold a quote, a backslash, or code that looks like a
statement.  None of it is taken for one, for two reasons: a statement has one line to
itself, and inside the line a literal ends at the first quote that is not escaped.  The
pause that ends every scene is not taken for a pause of the script, because the reader
takes off the frame before it looks at the statements.
-/
import Mathlib.Data.List.Basic
import StoryScript.Proofs.Outline
import StoryScript.Proofs.Code.Layout

namespace StoryScript

/-! ## Literals -/

/-- The text that a literal stands for, and what follows its closing quote.  The literal
is given without the opening quote; a backslash takes the next character as it is. -/
def readLiteral : Text → Option (Text × Text)
  | '"' :: rest => some ([], rest)
  | '\\' :: c :: rest => (readLiteral rest).map fun (said, after) => (c :: said, after)
  | ['\\'] => none
  | c :: rest => (readLiteral rest).map fun (said, after) => (c :: said, after)
  | [] => none

theorem readLiteral_escape (said after : Text) :
    readLiteral (Dialogue.escape said ++ '"' :: after) = some (said, after) := by
  induction said with
  | nil => rfl
  | cons c rest ih =>
      rw [Dialogue.escape_cons]
      by_cases hc : c = '\\' ∨ c = '"'
      · rw [if_pos hc]
        simp only [List.cons_append, List.nil_append, readLiteral, ih, Option.map_some]
      · rw [if_neg hc]
        obtain ⟨hbackslash, hquote⟩ := not_or.mp hc
        simp only [List.cons_append, List.nil_append]
        rw [readLiteral]
        · rw [ih]
          rfl
        · exact hquote
        · exact fun _ _ e => absurd e hbackslash
        · exact fun e => absurd e hbackslash

/-! ## Statements -/

/-- What happens in a scene, one thing at a time. -/
inductive Beat where
  /-- Somebody says something. -/
  | spoken (speaker said : Text) (reverb : Bool)
  | pause
  | comment (text : Text)
deriving DecidableEq, Repr

namespace Beat

/-- What the line of a script makes happen, if anything. -/
def ofLine? (line : Text) : Option Beat :=
  match Line.ofText line with
  | .statement (.say d) => some (.spoken d.speaker (Dialogue.saidIn line) d.isReverb)
  | .statement .pause => some .pause
  | .statement (.comment text) => some (.comment text)
  | _ => none

/-- The statement that makes a beat happen. -/
def statement : Beat → Statement
  | .spoken speaker said _ => .say ⟨speaker, Dialogue.escape said⟩
  | .pause => .pause
  | .comment text => .comment text

/-- What a call does, read from the name of its method on. -/
def readCall? (call : Text) : Option Beat := do
  let speaker := call.takeWhile Char.isAlphanum
  let argument ← (call.dropWhile Char.isAlphanum).dropPrefix? "(\"".toList
  let (said, after) ← readLiteral argument
  if after = Dialogue.callEnd false then some (.spoken speaker said false)
  else if after = Dialogue.callEnd true then some (.spoken speaker said true)
  else none

/-- What a line of code does. -/
def read? (code : Text) : Option Beat :=
  match code.dropPrefix? "        Dialog.".toList, code.dropPrefix? "        // ".toList with
  | some call, _ => readCall? call
  | none, some text => some (.comment text)
  | none, none => if code = "        Tale.Wait();".toList then some .pause else none

theorem readCall?_append {speaker : Text} (h : ∀ c ∈ speaker, c.isAlphanum = true) (said : Text)
    (reverb : Bool) :
    readCall? (speaker ++ ("(\"".toList ++ (Dialogue.escape said ++
      '"' :: Dialogue.callEnd reverb))) = some (.spoken speaker said reverb) := by
  have htake (rest : Text) :
      (speaker ++ ("(\"".toList ++ rest)).takeWhile Char.isAlphanum = speaker := by
    rw [List.takeWhile_append_of_pos h]
    exact List.append_nil _
  have hdrop (rest : Text) :
      (speaker ++ ("(\"".toList ++ rest)).dropWhile Char.isAlphanum = "(\"".toList ++ rest := by
    rw [List.dropWhile_append_of_pos h]
    rfl
  simp only [readCall?, htake, hdrop, Text.dropPrefix?_append, Option.bind_eq_bind,
    Option.bind_some, readLiteral_escape]
  cases reverb with
  | false => rfl
  | true => rfl

/-- The line of code that a statement becomes does what the statement's line says. -/
theorem read?_codeLine {line : Text} {s : Statement} (h : Line.ofText line = .statement s) :
    ∃ beat, ofLine? line = some beat ∧ beat.statement = s ∧ read? s.codeLine = some beat := by
  unfold ofLine? read? Statement.codeLine
  rcases Line.ofText_eq_statement h with ⟨d, rfl, hd⟩ | rfl | rfl
  · have hliteral := Dialogue.literal_of_ofLine? hd
    refine ⟨.spoken d.speaker (Dialogue.saidIn line) d.isReverb, by rw [h], ?_, ?_⟩
    · rw [statement, ← hliteral]
    · simp only [Text.dropPrefix?_append, hliteral]
      exact readCall?_append (Dialogue.isAlphanum_of_ofLine? hd) _ _
  · exact ⟨.pause, by rw [h], rfl, rfl⟩
  · have hcall : ("        // ".toList ++ Text.trim line).dropPrefix? "        Dialog.".toList =
        none := rfl
    refine ⟨.comment (Text.trim line), by rw [h], rfl, ?_⟩
    simp only [Text.dropPrefix?_append, hcall]

theorem ofLine?_eq_none {line : Text} (h : (Line.ofText line).statement? = none) :
    ofLine? line = none := by
  unfold ofLine?
  cases hl : Line.ofText line with
  | statement _ =>
      rw [hl] at h
      cases h
  | title _ => rfl
  | scene _ => rfl
  | blank => rfl

end Beat

/-! ## Scenes -/

/-- The statements of some lines of a script, in their order. -/
def Script.statements (texts : List Text) : List Statement :=
  texts.filterMap fun text => (Line.ofText text).statement?

theorem Script.mem_statements {texts : List Text} {s : Statement} :
    s ∈ statements texts ↔ ∃ text ∈ texts, Line.ofText text = .statement s := by
  simp only [statements, List.mem_filterMap, Line.statement?_eq_some_iff]

namespace Beat

/-- What a list of statements does, read from their lines of code. -/
def readAll? : List Text → Option (List Beat)
  | [] => some []
  | [] :: code :: rest => do
    let beat ← read? code
    let beats ← readAll? rest
    some (beat :: beats)
  | _ => none

theorem readAll?_bodyLines (texts : List Text) :
    readAll? (Code.bodyLines (Script.statements texts)) = some (texts.filterMap ofLine?) := by
  induction texts with
  | nil => rfl
  | cons text rest ih =>
      cases hs : (Line.ofText text).statement? with
      | none =>
          have hcons : Script.statements (text :: rest) = Script.statements rest :=
            List.filterMap_cons_none hs
          rw [hcons, List.filterMap_cons_none (ofLine?_eq_none hs)]
          exact ih
      | some s =>
          obtain ⟨beat, hbeat, -, hread⟩ := read?_codeLine (Line.statement?_eq_some_iff.mp hs)
          have hcons : Script.statements (text :: rest) = s :: Script.statements rest :=
            List.filterMap_cons_some hs
          rw [hcons, List.filterMap_cons_some hbeat, Code.bodyLines_cons, readAll?, hread, ih]
          rfl

theorem map_statement (texts : List Text) :
    (texts.filterMap ofLine?).map statement = Script.statements texts := by
  rw [List.map_filterMap]
  refine List.filterMap_congr fun text _ => ?_
  cases hs : (Line.ofText text).statement? with
  | none => rw [ofLine?_eq_none hs]; rfl
  | some s =>
      obtain ⟨beat, hbeat, hstatement, -⟩ := read?_codeLine (Line.statement?_eq_some_iff.mp hs)
      rw [hbeat, ← hstatement]
      rfl

end Beat

/-- The name in the line that names a class. -/
def readHeader? (line : Text) : Option Text := do
  let rest ← line.dropPrefix? "public class ".toList
  rest.dropSuffix? " : MonoBehaviour \x7b".toList

/-- The name of a scene and what happens in it, read off its class. -/
def readScene (code : Text) : Option (Text × List Beat) := do
  let front ← (Text.splitAt '\n' code).dropSuffix? (Code.closingLines ++ [[]])
  let name ← front[2]? >>= readHeader?
  let body ← front.dropPrefix? (Code.openingLines name)
  let beats ← Beat.readAll? body
  some (name, beats)

theorem readHeader?_header (name : Text) : readHeader? (Code.header name) = some name := by
  unfold readHeader? Code.header
  rw [Text.dropPrefix?_append]
  exact Text.dropSuffix?_append _ _

theorem readScene_eq_some {name : Text} {texts : List Text} (hname : '\n' ∉ name)
    (htexts : ∀ text ∈ texts, '\n' ∉ text) :
    readScene (Code.sceneClass name (Script.statements texts)) =
      some (name, texts.filterMap Beat.ofLine?) := by
  have hlines : ∀ s ∈ Script.statements texts, '\n' ∉ s.codeLine := by
    intro s hs
    obtain ⟨text, htext, hl⟩ := Script.mem_statements.mp hs
    exact Statement.not_mem_codeLine (htexts text htext) hl
  have hfront : (Code.openingLines name ++ (Code.bodyLines (Script.statements texts) ++
      (Code.closingLines ++ [[]]))).dropSuffix? (Code.closingLines ++ [[]]) =
      some (Code.openingLines name ++ Code.bodyLines (Script.statements texts)) :=
    Text.dropSuffix?_eq_some_iff.mpr (List.append_assoc _ _ _).symm
  have hthird (body : List Text) : (Code.openingLines name ++ body)[2]? =
      some (Code.header name) := rfl
  unfold readScene
  simp only [Code.splitAt_sceneClass hname hlines, hfront, hthird, readHeader?_header,
    Text.dropPrefix?_append, Beat.readAll?_bodyLines, Option.bind_eq_bind, Option.bind_some]

/-- **A scene can be read off its class.**  What is read is the name and, line by line,
what the script makes happen: who says what and how, each pause and each comment.  So two
scenes with the same class are the same scene. -/
theorem readScene_sceneClass (name : Text) (texts : List Text) (hname : '\n' ∉ name)
    (htexts : ∀ text ∈ texts, '\n' ∉ text) :
    readScene (Code.sceneClass name (Script.statements texts)) =
        some (name, texts.filterMap Beat.ofLine?) ∧
      ∀ name' texts', '\n' ∉ name' → (∀ text ∈ texts', '\n' ∉ text) →
        Code.sceneClass name' (Script.statements texts') =
          Code.sceneClass name (Script.statements texts) →
        name' = name ∧ Script.statements texts' = Script.statements texts := by
  have hread := readScene_eq_some hname htexts
  refine ⟨hread, fun name' texts' hname' htexts' heq => ?_⟩
  have hread' := readScene_eq_some hname' htexts'
  rw [heq, hread] at hread'
  obtain ⟨hnames, hbeats⟩ := Prod.mk.inj (Option.some.inj hread')
  refine ⟨hnames.symm, ?_⟩
  rw [← Beat.map_statement texts', ← Beat.map_statement texts, hbeats]

/-- An utterance that looks like the end of its literal, a comment that looks like a call,
and the pause that every scene ends with anyway. -/
theorem readScene_sceneClass_forged :
    let texts := ["Ann: (\\\", reverb: true);)".toList, "Dialog.Bob(\"no\");".toList,
      "Tale.Wait();".toList, "---".toList]
    '\n' ∉ "Night".toList ∧ (∀ text ∈ texts, '\n' ∉ text) ∧
      readScene (Code.sceneClass "Night".toList (Script.statements texts)) =
        some ("Night".toList,
          [.spoken "Ann".toList "(\\\", reverb: true);)".toList true,
            .comment "Dialog.Bob(\"no\");".toList, .comment "Tale.Wait();".toList, .pause]) := by
  intro texts
  have hname : '\n' ∉ "Night".toList := by decide
  have htexts : ∀ text ∈ texts, '\n' ∉ text := by decide
  refine ⟨hname, htexts, ?_⟩
  rw [(readScene_sceneClass _ _ hname htexts).1]
  rfl

end StoryScript
