/-
# `StoryScript.Proofs.Code.Escaping` — what is said cannot leave its literal

An utterance is escaped in two sweeps over the whole text, and the order matters:

    \  becomes  \\        first, while every backslash is the speaker's own
    "  becomes  \"        then, when the backslashes that come in are not doubled again

Both sweeps together are one map from characters to texts (`Dialogue.escape_eq_replaced`),
and that is the form in which a reader of literals can be followed through it.  The reader
goes on over every character of the escaped text and stops at the quote behind it, whatever
comes next: nothing that is said can end its literal early, hide its end, or reach into the
code (`Dialogue.escape_confined`).

That no literal ends inside the escaped text follows from the reader alone.  Had one ended
there, it would still end there with the rest of the code behind it
(`readLiteral_append`), and it does not.
-/
import StoryScript.Proofs.Code.Utterance

namespace StoryScript

/-- The text with another one in place of each `c`. -/
def Text.replaced (c : Char) (other : Text) (t : Text) : Text :=
  t.flatMap fun x => if x = c then other else [x]

/-! ## One sweep for two -/

namespace Dialogue

theorem replaced_replaced_char (c : Char) :
    Text.replaced '"' ['\\', '"'] (if c = '\\' then ['\\', '\\'] else [c]) =
      if c = '\\' ∨ c = '"' then ['\\', c] else [c] := by
  by_cases hbackslash : c = '\\'
  · subst hbackslash
    rfl
  · rw [if_neg hbackslash, Text.replaced, List.flatMap_singleton]
    by_cases hquote : c = '"'
    · subst hquote
      rfl
    · rw [if_neg hquote, if_neg (not_or.mpr ⟨hbackslash, hquote⟩)]

/-- Escaping is doubling the backslashes and then putting one in front of each quote. -/
theorem escape_eq_replaced (t : Text) :
    escape t = Text.replaced '"' ['\\', '"'] (Text.replaced '\\' ['\\', '\\'] t) := by
  have hchars : (fun c => if c = '\\' ∨ c = '"' then ['\\', c] else [c]) =
      fun c => Text.replaced '"' ['\\', '"'] (if c = '\\' then ['\\', '\\'] else [c]) := by
    funext c
    exact (replaced_replaced_char c).symm
  rw [escape, hchars]
  exact List.flatMap_assoc.symm

/-- With the sweeps the other way round the backslash of a quote is doubled, and the quote is
bare. -/
example : Text.replaced '\\' ['\\', '\\'] (Text.replaced '"' ['\\', '"'] ['"']) =
    ['\\', '\\', '"'] := by decide

end Dialogue

/-! ## Where a literal ends -/

theorem readLiteral_append {t said after : Text} (h : readLiteral t = some (said, after))
    (more : Text) : readLiteral (t ++ more) = some (said, after ++ more) := by
  fun_induction readLiteral t generalizing said after with
  | case1 rest =>
      cases h
      rfl
  | case2 c rest ih =>
      obtain ⟨⟨said', after'⟩, hrest, heq⟩ := Option.map_eq_some_iff.mp h
      cases heq
      simp only [List.cons_append, readLiteral, ih hrest, Option.map_some]
  | case3 => cases h
  | case4 c rest hquote hescaped hbackslash ih =>
      obtain ⟨⟨said', after'⟩, hrest, heq⟩ := Option.map_eq_some_iff.mp h
      cases heq
      have hc : c ≠ '\\' := by
        rintro rfl
        cases rest with
        | nil => exact hbackslash rfl rfl
        | cons x rest => exact hescaped x rest rfl rfl
      rw [List.cons_append, readLiteral]
      · rw [ih hrest]
        rfl
      · exact hquote
      · exact fun _ _ e => absurd e hc
      · exact fun e => absurd e hc
  | case5 => cases h

/-- No literal ends inside an escaped text. -/
theorem readLiteral_of_prefix_escape {said part : Text} (h : part <+: Dialogue.escape said) :
    readLiteral part = none := by
  obtain ⟨rest, hrest⟩ := h
  rw [Option.eq_none_iff_forall_ne_some]
  rintro ⟨heard, after⟩ hpart
  have hwhole : readLiteral (Dialogue.escape said ++ ['"']) =
      some (heard, after ++ (rest ++ ['"'])) := by
    rw [← hrest, List.append_assoc]
    exact readLiteral_append hpart _
  rw [readLiteral_escape said []] at hwhole
  have hnothing : [] = after ++ (rest ++ ['"']) := congrArg Prod.snd (Option.some.inj hwhole)
  exact absurd hnothing (by simp)

/-- Two texts whose literals have the same code behind their opening quotes are the same, and
so is what follows them. -/
theorem eq_of_escape_append {said other after rest : Text}
    (h : Dialogue.escape other ++ '"' :: rest = Dialogue.escape said ++ '"' :: after) :
    other = said ∧ rest = after := by
  have hread : some (other, rest) = some (said, after) := by
    rw [← readLiteral_escape, h, readLiteral_escape]
  exact Prod.mk.inj (Option.some.inj hread)

theorem Dialogue.escape_injective : Function.Injective escape := by
  intro other said h
  have hquoted : escape other ++ ['"'] = escape said ++ ['"'] := congrArg (· ++ ['"']) h
  exact (eq_of_escape_append hquoted).1

/-- **An utterance cannot leave its literal.**  It is escaped in two sweeps, the backslashes
first.  Whatever code follows, a reader of the literal goes through all of it, stops at the
quote right behind it, has read the utterance, and leaves the code that follows; in no part
of it does the literal end.  So no two utterances are escaped alike, nor with any code behind
them.  And the parentheses that ask for the reverb are seen on the escaped text as they were
written. -/
theorem Dialogue.escape_confined (said : Text) :
    escape said = Text.replaced '"' ['\\', '"'] (Text.replaced '\\' ['\\', '\\'] said) ∧
    (∀ after, readLiteral (escape said ++ '"' :: after) = some (said, after)) ∧
    (∀ part, part <+: escape said → readLiteral part = none) ∧
    (∀ other, escape other = escape said → other = said) ∧
    (∀ other after rest, escape other ++ '"' :: rest = escape said ++ '"' :: after →
      other = said ∧ rest = after) ∧
    ((escape said).head? = some '(' ↔ said.head? = some '(') ∧
    ((escape said).getLast? = some ')' ↔ said.getLast? = some ')') ∧
    ∀ speaker, isReverb ⟨speaker, escape said⟩ = true ↔
      said.head? = some '(' ∧ said.getLast? = some ')' := by
  refine ⟨escape_eq_replaced said, readLiteral_escape said, ?_, ?_, ?_,
    head?_escape_eq_paren_iff, ?_, ?_⟩
  · intro part hpart
    exact readLiteral_of_prefix_escape hpart
  · intro other hsame
    exact escape_injective hsame
  · intro other after rest hsame
    exact eq_of_escape_append hsame
  · rw [getLast?_escape]
  · intro speaker
    exact isReverb_escape speaker said

end StoryScript
