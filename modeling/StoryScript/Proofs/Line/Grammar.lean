/-
# `StoryScript.Proofs.Line.Grammar` — the grammar of a line

What a line means is told by rules, of which no two fit the same line (`Line.Means`):

    scene      ## rest
    title      # rest
    say        blanks speaker : rest        something is said in the rest, in one line
    pause      ---                          between blanks, as for the others
    blank
    comment    anything else

A line is read as what it means, and every line means one thing (`Line.ofText_eq_iff_means`).
There is one way only to take a spoken line apart, because the blanks end where the speaker
begins and no speaker holds a colon; so who speaks does not depend on what is said.
-/
import Mathlib.Data.List.Basic
import StoryScript.Proofs.Line

namespace StoryScript

namespace Dialogue

/-! ## What is said -/

/-- What is left of a text without the blanks at its ends, one double quote in front, one
behind what is left then, and the blanks inside of them. -/
def bare (t : Text) : Text :=
  let trimmed := Text.trim t
  let opened := (trimmed.dropPrefix? ['"']).getD trimmed
  let closed := (opened.dropSuffix? ['"']).getD opened
  Text.trim closed

theorem dropQuote_of_head? {t : Text} (h : t.head? ≠ some '"') : dropQuote t = t := by
  unfold dropQuote
  split
  · exact absurd rfl h
  · rfl

theorem dropQuote_eq (t : Text) : dropQuote t = (t.dropPrefix? ['"']).getD t := by
  cases hdrop : t.dropPrefix? ['"'] with
  | some rest =>
      obtain rfl := Text.dropPrefix?_eq_some_iff.mp hdrop
      rfl
  | none =>
      refine dropQuote_of_head? fun h => ?_
      obtain ⟨rest, rfl⟩ := List.head?_eq_some_iff.mp h
      have hsome := Text.dropPrefix?_append ['"'] rest
      rw [List.singleton_append, hdrop] at hsome
      cases hsome

theorem reverse_dropQuote_reverse (t : Text) :
    (dropQuote t.reverse).reverse = (t.dropSuffix? ['"']).getD t := by
  cases hdrop : t.dropSuffix? ['"'] with
  | some rest =>
      obtain rfl := Text.dropSuffix?_eq_some_iff.mp hdrop
      rw [List.reverse_append]
      exact List.reverse_reverse rest
  | none =>
      rw [dropQuote_of_head?, List.reverse_reverse]
      · rfl
      · intro h
        rw [List.head?_reverse] at h
        obtain ⟨rest, rfl⟩ := List.getLast?_eq_some_iff.mp h
        have hsome := Text.dropSuffix?_append rest ['"']
        rw [hdrop] at hsome
        cases hsome

theorem unquote_eq_bare (t : Text) : unquote t = bare t := by
  rw [unquote, reverse_dropQuote_reverse, dropQuote_eq, bare]

/-! ## The parts of a spoken line -/

/-- A line in which something is said, taken apart. -/
structure Spoken (line blanks speaker rest : Text) : Prop where
  line_eq : line = blanks ++ (speaker ++ ':' :: rest)
  blank : ∀ c ∈ blanks, Text.isBlank c = true
  ne_nil : speaker ≠ []
  alphanum : ∀ c ∈ speaker, c.isAlphanum = true
  said : bare rest ≠ []

theorem ofLine?_iff_spoken {line : Text} {d : Dialogue} :
    ofLine? line = some d ↔ ∃ blanks rest, Spoken line blanks d.speaker rest ∧ '\n' ∉ rest ∧
      d.literal = escape (bare rest) := by
  simp only [ofLine?_eq_some_iff, unquote_eq_bare]
  constructor
  · rintro ⟨blanks, rest, hline, hblank, hne, halphanum, hnewline, hsaid, hliteral⟩
    exact ⟨blanks, rest, ⟨hline, hblank, hne, halphanum, hsaid⟩, hnewline, hliteral⟩
  · rintro ⟨blanks, rest, h, hnewline, hliteral⟩
    exact ⟨blanks, rest, h.line_eq, h.blank, h.ne_nil, h.alphanum, hnewline, h.said, hliteral⟩

namespace Spoken

variable {line blanks speaker rest blanks' speaker' rest' : Text}

theorem takeWhile_isBlank (h : Spoken line blanks speaker rest) :
    line.takeWhile Text.isBlank = blanks := by
  obtain ⟨c, name, hname⟩ := List.exists_cons_of_ne_nil h.ne_nil
  have hc := Text.not_isBlank_of_isAlphanum (h.alphanum c (hname ▸ List.mem_cons_self))
  rw [h.line_eq, hname, List.takeWhile_append_of_pos h.blank, List.cons_append,
    List.takeWhile_cons_of_neg hc, List.append_nil]

/-- **There is one way only to take a line apart.** -/
theorem unique (h : Spoken line blanks speaker rest) (h' : Spoken line blanks' speaker' rest') :
    blanks = blanks' ∧ speaker = speaker' ∧ rest = rest' := by
  have hblanks : blanks = blanks' := h.takeWhile_isBlank.symm.trans h'.takeWhile_isBlank
  subst hblanks
  have hline := h.line_eq.symm.trans h'.line_eq
  have hbody := List.append_cancel_left hline
  have hcolon : ¬ (':' : Char).isAlphanum = true := by decide
  have hspeaker : speaker = speaker' := by
    have htake := congrArg (List.takeWhile Char.isAlphanum) hbody
    rwa [List.takeWhile_append_of_pos h.alphanum, List.takeWhile_append_of_pos h'.alphanum,
      List.takeWhile_cons_of_neg hcolon, List.takeWhile_cons_of_neg hcolon, List.append_nil,
      List.append_nil] at htake
  subst hspeaker
  exact ⟨rfl, rfl, (List.cons.inj (List.append_cancel_left hbody)).2⟩

end Spoken

end Dialogue

/-! ## The grammar -/

namespace Line

open Dialogue

/-- The line opens with the marks of a heading. -/
def IsHeaded (line : Text) : Prop := "## ".toList <+: line ∨ "# ".toList <+: line

/-- Somebody says something in the line, and in no other. -/
def IsSpoken (line : Text) : Prop :=
  ∃ blanks speaker rest, Spoken line blanks speaker rest ∧ '\n' ∉ rest

/-- What a line means.  A heading is told by its marks and the space behind them, which is
cut off with the blanks. -/
inductive Means (line : Text) : Line → Prop
  | scene {rest : Text} : line = "##".toList ++ ' ' :: rest →
      Means line (.scene (Text.trim (' ' :: rest)))
  | title {rest : Text} : line = "#".toList ++ ' ' :: rest →
      Means line (.title (Text.trim (' ' :: rest)))
  | say {blanks speaker rest : Text} : Spoken line blanks speaker rest → '\n' ∉ rest →
      Means line (.statement (.say ⟨speaker, escape (bare rest)⟩))
  | pause : ¬ IsHeaded line → ¬ IsSpoken line → Text.trim line = "---".toList →
      Means line (.statement .pause)
  | blank : ¬ IsHeaded line → ¬ IsSpoken line → Text.trim line = [] → Means line .blank
  | comment : ¬ IsHeaded line → ¬ IsSpoken line → Text.trim line ≠ "---".toList →
      Text.trim line ≠ [] → Means line (.statement (.comment (Text.trim line)))

theorem not_isHeaded_iff {line : Text} : ¬ IsHeaded line ↔
    (∀ rest, line ≠ '#' :: '#' :: ' ' :: rest) ∧ ∀ rest, line ≠ '#' :: ' ' :: rest := by
  rw [IsHeaded, not_or]
  refine and_congr ?_ ?_
  · exact ⟨fun h rest hline => h ⟨rest, hline.symm⟩, fun h ⟨rest, hline⟩ => h rest hline.symm⟩
  · exact ⟨fun h rest hline => h ⟨rest, hline.symm⟩, fun h ⟨rest, hline⟩ => h rest hline.symm⟩

theorem ofLine?_eq_none_of_not_isSpoken {line : Text} (h : ¬ IsSpoken line) :
    ofLine? line = none := by
  rw [Option.eq_none_iff_forall_ne_some]
  intro d hd
  obtain ⟨blanks, rest, hspoken, hnewline, -⟩ := ofLine?_iff_spoken.mp hd
  exact h ⟨blanks, d.speaker, rest, hspoken, hnewline⟩

theorem ofText_of_not {line : Text} (hheaded : ¬ IsHeaded line) (hspoken : ¬ IsSpoken line) :
    ofText line = ofPlain (Text.trim line) := by
  obtain ⟨hscene, htitle⟩ := not_isHeaded_iff.mp hheaded
  rw [ofText_of_plain hscene htitle, ofLine?_eq_none_of_not_isSpoken hspoken]

theorem trim_space_cons (t : Text) : Text.trim (' ' :: t) = Text.trim t :=
  Text.trim_blanks_append (List.forall_mem_singleton.mpr rfl) t

theorem Means.ofText_eq {line : Text} {l : Line} (h : Means line l) : ofText line = l := by
  cases h with
  | scene hline =>
      rw [hline, trim_space_cons]
      rfl
  | title hline =>
      rw [hline, trim_space_cons]
      rfl
  | say hspoken hnewline =>
      exact ofText_of_ofLine? (ofLine?_iff_spoken.mpr ⟨_, _, hspoken, hnewline, rfl⟩)
  | pause hheaded hspoken htrim =>
      rw [ofText_of_not hheaded hspoken, htrim]
      rfl
  | blank hheaded hspoken htrim =>
      rw [ofText_of_not hheaded hspoken, htrim]
      rfl
  | comment hheaded hspoken hpause hblank =>
      have hpause : Text.trim line ≠ pauseMark := hpause
      rw [ofText_of_not hheaded hspoken, ofPlain, if_neg hpause, if_neg hblank]

/-- Every line means something. -/
theorem exists_means (line : Text) : ∃ l, Means line l := by
  by_cases hheaded : IsHeaded line
  · rcases hheaded with ⟨rest, hline⟩ | ⟨rest, hline⟩
    · exact ⟨_, .scene hline.symm⟩
    · exact ⟨_, .title hline.symm⟩
  by_cases hspoken : IsSpoken line
  · obtain ⟨blanks, speaker, rest, hspoken, hnewline⟩ := hspoken
    exact ⟨_, .say hspoken hnewline⟩
  by_cases hpause : Text.trim line = "---".toList
  · exact ⟨_, .pause hheaded hspoken hpause⟩
  by_cases hblank : Text.trim line = []
  · exact ⟨_, .blank hheaded hspoken hblank⟩
  · exact ⟨_, .comment hheaded hspoken hpause hblank⟩

theorem ofText_iff_means {line : Text} {l : Line} : ofText line = l ↔ Means line l := by
  constructor
  · rintro rfl
    obtain ⟨l, hl⟩ := exists_means line
    rwa [hl.ofText_eq]
  · exact Means.ofText_eq

/-- **A line is read as what it means.**  A spoken line can be taken apart in one way only,
and what it takes to be spoken in one line is no demand on a line without a newline.  What
is read as a literal or as a comment is not empty, and has no blanks at its ends. -/
theorem ofText_eq_iff_means (line : Text) :
    (∀ l, ofText line = l ↔ Means line l) ∧
      (∀ {blanks speaker rest blanks' speaker' rest' : Text},
        Spoken line blanks speaker rest → Spoken line blanks' speaker' rest' →
        blanks = blanks' ∧ speaker = speaker' ∧ rest = rest') ∧
      (∀ {blanks speaker rest : Text}, Spoken line blanks speaker rest → '\n' ∉ line →
        '\n' ∉ rest) ∧
      (∀ d, ofText line = .statement (.say d) →
        d.literal ≠ [] ∧ Text.trim d.literal = d.literal) ∧
      ∀ text, ofText line = .statement (.comment text) → text ≠ [] ∧ Text.trim text = text := by
  refine ⟨fun l => ofText_iff_means, Spoken.unique, ?_, ?_, ?_⟩
  · intro blanks speaker rest h hline hrest
    rw [h.line_eq] at hline
    exact hline (List.mem_append_right _ (List.mem_append_right _ (List.mem_cons_of_mem _ hrest)))
  · intro d hd
    cases ofText_iff_means.mp hd with
    | say hspoken =>
        refine ⟨mt escape_eq_nil_iff.mp hspoken.said, trim_escape ?_⟩
        rw [← unquote_eq_bare]
        exact Text.trim_trim _
  · intro text htext
    cases ofText_iff_means.mp htext with
    | comment _ _ _ hblank => exact ⟨hblank, Text.trim_trim line⟩

/-- A quote and a backslash that are said, and a pair of quotes with nothing between. -/
theorem ofText_eq_iff_means_quotes :
    let line := "\t Bob: \"a\\\"\" ".toList
    let empty := "Bob: \" \"".toList
    Spoken line "\t ".toList "Bob".toList " \"a\\\"\" ".toList ∧ '\n' ∉ line ∧
      ofText line = .statement (.say ⟨"Bob".toList, "a\\\\\\\"".toList⟩) ∧
      (∀ blanks speaker rest, Spoken line blanks speaker rest →
        speaker = "Bob".toList ∧ '\n' ∉ rest) ∧
      Text.trim "a\\\\\\\"".toList = "a\\\\\\\"".toList ∧
      ofText empty = .statement (.comment empty) ∧ Text.trim empty = empty := by
  intro line empty
  have hspoken : Spoken line "\t ".toList "Bob".toList " \"a\\\"\" ".toList :=
    ⟨rfl, List.all_eq_true.mp rfl, by decide, List.all_eq_true.mp rfl, by decide⟩
  have hline : '\n' ∉ line := by decide
  obtain ⟨hread, hunique, hnewline, hliteral, -⟩ := ofText_eq_iff_means line
  obtain ⟨-, -, -, -, hcomment⟩ := ofText_eq_iff_means empty
  have hsay : ofText line = .statement (.say ⟨"Bob".toList, "a\\\\\\\"".toList⟩) :=
    (hread _).mpr (.say hspoken (by decide))
  have hempty : ofText empty = .statement (.comment empty) := by decide
  refine ⟨hspoken, hline, hsay, ?_, (hliteral _ hsay).2, hempty, (hcomment _ hempty).2⟩
  intro blanks speaker rest h
  exact ⟨(hunique h hspoken).2.1, hnewline h hline⟩

end Line

end StoryScript
