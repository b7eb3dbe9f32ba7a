/-
# `StoryScript.Proofs.Code.Utterance` — what is said in quotes is said in the code

A writer who puts an utterance into double quotes need not look at what is in it.  Of the
quotes in such a line one pair is the writer's, and only that pair is taken off:

    Bob: "…"        Bob says …
    Bob: ""…\"      Bob says "…\

What is said has no blanks at its ends, so there are none to cut off inside the pair either.
What is left is escaped, and the string literal of the call reads as the utterance again
(`Statement.code_inQuotes`).  The reverb is looked for in the escaped text, which makes no
difference: a backslash in front is no parenthesis, and nothing is put at the end.
-/
import StoryScript.Proofs.Code.Reading

namespace StoryScript

namespace Dialogue

/-- The text between double quotes. -/
def inQuotes (t : Text) : Text := '"' :: (t ++ ['"'])

/-- The text that a string literal stands for.  The literal ends with its closing quote. -/
def literalText? : Text → Option Text
  | '"' :: body =>
    match readLiteral body with
    | some (said, []) => some said
    | _ => none
  | _ => none

theorem literalText?_inQuotes_escape (said : Text) :
    literalText? (inQuotes (escape said)) = some said := by
  rw [inQuotes, literalText?, readLiteral_escape]

/-! ## The quotes of the writer -/

theorem not_mem_inQuotes {t : Text} (h : '\n' ∉ t) : '\n' ∉ inQuotes t := by
  rw [inQuotes, List.mem_cons, List.mem_append, List.mem_singleton]
  rintro (hopen | ht | hclose)
  · exact absurd hopen (by decide)
  · exact h ht
  · exact absurd hclose (by decide)

theorem trim_inQuotes (t : Text) : Text.trim (inQuotes t) = inQuotes t := by
  have hlast : (inQuotes t).getLast? = some '"' := by
    rw [inQuotes, ← List.cons_append, List.getLast?_concat]
  have hquote : Text.isBlank '"' = false := rfl
  rw [Text.trim_eq_self_iff, hlast, inQuotes, List.head?_cons, Option.map_some, hquote]
  exact ⟨nofun, nofun⟩

theorem unquote_inQuotes (t : Text) : unquote (inQuotes t) = Text.trim t := by
  have hopen : dropQuote (inQuotes t) = t ++ ['"'] := rfl
  have hclose : dropQuote (t ++ ['"']).reverse = t.reverse := by
    rw [List.reverse_append]
    rfl
  rw [unquote, trim_inQuotes, hopen, hclose, List.reverse_reverse]

/-! ## The reverb -/

theorem head?_escape_eq_paren_iff {t : Text} :
    (escape t).head? = some '(' ↔ t.head? = some '(' := by
  rw [head?_escape]
  cases t with
  | nil => exact Iff.rfl
  | cons c rest =>
      rw [List.head?_cons, Option.map_some, Option.some_inj, Option.some_inj]
      split
      · rename_i hc
        refine ⟨fun h => absurd h (by decide), ?_⟩
        rintro rfl
        exact absurd hc (by decide)
      · exact Iff.rfl

theorem isReverb_escape (speaker said : Text) :
    isReverb ⟨speaker, escape said⟩ = true ↔
      said.head? = some '(' ∧ said.getLast? = some ')' := by
  rw [isReverb, Bool.and_eq_true, beq_iff_eq, beq_iff_eq, getLast?_escape,
    head?_escape_eq_paren_iff]

end Dialogue

/-! ## An utterance in quotes -/

open Dialogue

theorem Statement.code_say_escape (speaker said : Text) :
    (Statement.say ⟨speaker, escape said⟩).code =
      "\n        Dialog.".toList ++ speaker ++ "(".toList ++ inQuotes (escape said) ++
        (if said.head? = some '(' ∧ said.getLast? = some ')' then ", reverb: true".toList
          else []) ++ ");\n".toList := by
  have hcall : "(\"" = "(" ++ "\"" := rfl
  have hquote : "\"".toList = ['"'] := rfl
  have hreverb := isReverb_escape speaker said
  unfold Statement.code inQuotes
  simp only [hcall, hquote, String.toList_append, List.append_assoc, List.cons_append,
    List.nil_append]
  by_cases hparens : said.head? = some '(' ∧ said.getLast? = some ')'
  · rw [if_pos hparens, if_pos (hreverb.mpr hparens)]
  · rw [if_neg hparens, if_neg (mt hreverb.mp hparens)]

/-- **Every utterance can be written, and arrives.**  In quotes a text may be said that holds
quotes and backslashes anywhere.  The statement calls the method of its speaker with a literal
on one line that reads as the text, and asks for reverb if the text is in parentheses. -/
theorem Statement.code_inQuotes {before speaker between said after : Text}
    (hbefore : ∀ c ∈ before, Text.isBlank c = true) (hspeaker : speaker ≠ [])
    (halphanum : ∀ c ∈ speaker, c.isAlphanum = true)
    (hbetween : ∀ c ∈ between, Text.isBlank c = true) (hsaid : said ≠ [])
    (hhead : said.head?.map Text.isBlank ≠ some true)
    (hlast : said.getLast?.map Text.isBlank ≠ some true)
    (hafter : ∀ c ∈ after, Text.isBlank c = true)
    (hnewline : '\n' ∉ between ∧ '\n' ∉ said ∧ '\n' ∉ after) :
    ∃ d literal,
      Line.ofText (before ++ (speaker ++ ':' :: (between ++ (inQuotes said ++ after)))) =
          .statement (.say d) ∧
        d.speaker = speaker ∧
        (Statement.say d).code = "\n        Dialog.".toList ++ speaker ++ "(".toList ++ literal ++
          (if said.head? = some '(' ∧ said.getLast? = some ')' then ", reverb: true".toList
            else []) ++ ");\n".toList ∧
        '\n' ∉ literal ∧ literalText? literal = some said := by
  obtain ⟨hnbetween, hnsaid, hnafter⟩ := hnewline
  have hunquote : unquote (between ++ (inQuotes said ++ after)) = said := by
    rw [unquote_blanks_append hbetween, unquote_append_blanks hafter, unquote_inQuotes]
    exact Text.trim_eq_self_iff.mpr ⟨hhead, hlast⟩
  have hnrest : '\n' ∉ between ++ (inQuotes said ++ after) := by
    rw [List.mem_append, List.mem_append, not_or, not_or]
    exact ⟨hnbetween, not_mem_inQuotes hnsaid, hnafter⟩
  have hnescape : '\n' ∉ escape said := not_mem_escape (by decide) hnsaid
  have hread := ofLine?_append hbefore hspeaker halphanum hnrest (hunquote.symm ▸ hsaid)
  rw [hunquote] at hread
  exact ⟨⟨speaker, escape said⟩, inQuotes (escape said), Line.ofText_of_ofLine? hread, rfl,
    Statement.code_say_escape speaker said, not_mem_inQuotes hnescape,
    literalText?_inQuotes_escape said⟩

/-- A text that opens with a quote and ends with a backslash and a quote, between an
ideographic space and a carriage return. -/
theorem Statement.code_inQuotes_no :
    let before : Text := "\t ".toList
    let speaker : Text := "Bob2".toList
    let between : Text := "\u3000".toList
    let said : Text := "\"No.\\\"".toList
    let after : Text := "\r".toList
    (∀ c ∈ before, Text.isBlank c = true) ∧ speaker ≠ [] ∧
      (∀ c ∈ speaker, c.isAlphanum = true) ∧ (∀ c ∈ between, Text.isBlank c = true) ∧
      said ≠ [] ∧ said.head?.map Text.isBlank ≠ some true ∧
      said.getLast?.map Text.isBlank ≠ some true ∧ (∀ c ∈ after, Text.isBlank c = true) ∧
      ('\n' ∉ between ∧ '\n' ∉ said ∧ '\n' ∉ after) ∧
      ∃ d literal, Line.ofText "\t Bob2:\u3000\"\"No.\\\"\"\r".toList = .statement (.say d) ∧
        (Statement.say d).code = "\n        Dialog.Bob2(".toList ++ literal ++ ");\n".toList ∧
        literalText? literal = some said := by
  intro before speaker between said after
  have hbefore : ∀ c ∈ before, Text.isBlank c = true := List.all_eq_true.mp rfl
  have hspeaker : speaker ≠ [] := by decide
  have halphanum : ∀ c ∈ speaker, c.isAlphanum = true := List.all_eq_true.mp rfl
  have hbetween : ∀ c ∈ between, Text.isBlank c = true := List.all_eq_true.mp rfl
  have hsaid : said ≠ [] := by decide
  have hhead : said.head?.map Text.isBlank ≠ some true := by decide
  have hlast : said.getLast?.map Text.isBlank ≠ some true := by decide
  have hafter : ∀ c ∈ after, Text.isBlank c = true := List.all_eq_true.mp rfl
  have hnewline : '\n' ∉ between ∧ '\n' ∉ said ∧ '\n' ∉ after := by decide
  obtain ⟨d, literal, hread, -, hcode, -, hliteral⟩ := code_inQuotes hbefore hspeaker halphanum
    hbetween hsaid hhead hlast hafter hnewline
  refine ⟨hbefore, hspeaker, halphanum, hbetween, hsaid, hhead, hlast, hafter, hnewline, d,
    literal, hread, ?_, hliteral⟩
  have hparens : ¬ (said.head? = some '(' ∧ said.getLast? = some ')') := by decide
  rw [hcode, if_neg hparens, List.append_nil]
  rfl

/-- The quotes of the writer do not stand in the way of the reverb. -/
example : (Statement.say ⟨"Ann".toList, escape "(\"\\)".toList⟩).code =
    "\n        Dialog.Ann(\"(\\\"\\\\)\", reverb: true);\n".toList := by decide

end StoryScript
