/-
# `StoryScript.Proofs.Line.Ending` — a line that comes with its line end

Lines that are read have lost their ends, but whoever feeds lines by himself may leave
the ends where they are.  Blanks behind a line are cut off, and a newline is a blank, so
for most lines that makes no difference:

    the line         with "\r\n" behind it

    ## Day           scene       Day
    ---              pause
    Lights out.      comment     Lights out.
    Bob: Hi.         comment     Bob: Hi.         and without it, Bob says Hi.

The spoken line is the exception.  What is said ends where the text ends, and there must
be no newline in it; so nobody is taken to speak, and what is left is a comment with the
text of the line (`ofText_append_lineEnd`).  It takes an open scene to notice.
-/
import StoryScript.Proofs.Compilation.Feeding

namespace StoryScript

namespace Line

variable {line w : Text} {d : Dialogue}

theorem ofLine?_eq_some_iff_ofText :
    Dialogue.ofLine? line = some d ↔ ofText line = .statement (.say d) := by
  refine ⟨ofText_of_ofLine?, fun h => ?_⟩
  rcases ofText_eq_statement h with ⟨_, hsay, hd⟩ | hpause | hcomment
  · cases hsay
    exact hd
  · cases hpause
  · cases hcomment

theorem ofPlain_trim_of_ofLine? (h : Dialogue.ofLine? line = some d) :
    ofPlain (Text.trim line) = .statement (.comment (Text.trim line)) := by
  have hcolon : ':' ∈ Text.trim line := by
    obtain ⟨blanks, rest, rfl, -⟩ := Dialogue.exists_parts_of_ofLine? h
    rw [Text.mem_trim_iff rfl]
    exact List.mem_append_right _ (List.mem_append_right _ List.mem_cons_self)
  have hpause : Text.trim line ≠ pauseMark := by
    intro htrim
    rw [htrim] at hcolon
    exact absurd hcolon (by decide)
  rw [ofPlain, if_neg hpause, if_neg (List.ne_nil_of_mem hcolon)]

/-- A spoken line with a newline behind it is a comment. -/
theorem ofText_append_of_spoken (hw : ∀ c ∈ w, Text.isBlank c = true) (hnewline : '\n' ∈ w)
    (h : Dialogue.ofLine? line = some d) :
    ofText (line ++ w) = .statement (.comment (Text.trim line)) := by
  obtain ⟨c, hhead, hne⟩ := head?_of_ofLine? h
  have hmark : (line ++ w).head? ≠ some '#' := by
    rw [List.head?_append, hhead]
    exact fun hc => hne (Option.some.inj hc)
  rw [ofText_of_head? hmark, Dialogue.ofLine?_append_newline hw hnewline,
    Text.trim_append_blanks hw]
  exact ofPlain_trim_of_ofLine? h

/-- **Blanks behind a line matter to spoken lines only, and if there is a newline among
them.**  Such a line becomes a comment with its text, in which nobody is heard; with no
other line is there a difference, except that a space makes a heading of a lone `#` or `##`.

So a line may be fed with its end, whatever the session, unless it is spoken in an open
scene.  That scene has a comment then where somebody should speak. -/
theorem ofText_append_lineEnd (line w : Text) (hw : ∀ c ∈ w, Text.isBlank c = true)
    (hmarks : line = ['#'] ∨ line = ['#', '#'] → w.head? ≠ some ' ') :
    (ofText (line ++ w) = ofText line ↔
      ('\n' ∈ w → ∀ d, ofText line ≠ .statement (.say d))) ∧
    (∀ d, '\n' ∈ w → ofText line = .statement (.say d) →
      ofText (line ++ w) = .statement (.comment (Text.trim line))) ∧
    ∀ {σ : Type} [Sink σ] (cfg : Config) (s : Session σ),
      ('\n' ∈ w → (∃ d, ofText line = .statement (.say d)) →
        s.progress.phase = .inScript → s.progress.draft = none) →
      s.feed cfg (line ++ w) = s.feed cfg line := by
  have hspoken (d : Dialogue) (hnewline : '\n' ∈ w) (h : ofText line = .statement (.say d)) :
      ofText (line ++ w) = .statement (.comment (Text.trim line)) :=
    ofText_append_of_spoken hw hnewline (ofLine?_eq_some_iff_ofText.mpr h)
  have hsame (hquiet : '\n' ∈ w → ∀ d, ofText line ≠ .statement (.say d)) :
      ofText (line ++ w) = ofText line := by
    by_cases hnewline : '\n' ∈ w
    · refine ofText_append_of_ofLine? hw hmarks ?_
      rw [Dialogue.ofLine?_append_newline hw hnewline, eq_comm, Option.eq_none_iff_forall_ne_some]
      exact fun d hd => hquiet hnewline d (ofLine?_eq_some_iff_ofText.mp hd)
    · exact ofText_append_blanks hw hnewline hmarks
  refine ⟨⟨?_, hsame⟩, hspoken, ?_⟩
  · intro h hnewline d hd
    rw [hspoken d hnewline hd, hd] at h
    cases h
  · intro σ _ cfg s hunheard
    by_cases hsay : '\n' ∈ w ∧ ∃ d, ofText line = .statement (.say d)
    · obtain ⟨hnewline, d, hd⟩ := hsay
      have hcomment := hspoken d hnewline hd
      cases hp : s.progress.phase with
      | searching =>
          rw [Session.feed_of_searching hp (by rw [hcomment]; rfl),
            Session.feed_of_searching hp (by rw [hd]; rfl)]
      | inScript =>
          have hnone := hunheard hnewline ⟨d, hd⟩ hp
          rw [Session.feed_statement hp hcomment, Session.feed_statement hp hd,
            Session.addStatement_of_none hnone, Session.addStatement_of_none hnone]
      | ended => rw [Session.feed_of_ended hp, Session.feed_of_ended hp]
    · exact Session.feed_congr (hsame fun hnewline d hd => hsay ⟨hnewline, d, hd⟩)

/-- A heading, and a spoken line, with a space and a line end behind them. -/
theorem ofText_append_lineEnd_bob :
    let w := " \r\n".toList
    let heading := "## Day".toList
    let spoken := "Bob: Hi.".toList
    (∀ c ∈ w, Text.isBlank c = true) ∧ '\n' ∈ w ∧
      ofText (heading ++ w) = .scene "Day".toList ∧
      ofText spoken = .statement (.say ⟨"Bob".toList, "Hi.".toList⟩) ∧
      ofText (spoken ++ w) = .statement (.comment spoken) := by
  intro w heading spoken
  have hw : ∀ c ∈ w, Text.isBlank c = true := List.all_eq_true.mp rfl
  have hnewline : '\n' ∈ w := by decide
  have hsay : ofText spoken = .statement (.say ⟨"Bob".toList, "Hi.".toList⟩) := by decide
  obtain ⟨⟨-, hsame⟩, -⟩ := ofText_append_lineEnd heading w hw (by decide)
  obtain ⟨-, hcomment, -⟩ := ofText_append_lineEnd spoken w hw (by decide)
  refine ⟨hw, hnewline, ?_, hsay, hcomment _ hnewline hsay⟩
  rw [hsame]
  · rfl
  · intro _ d hd
    cases hd

/-- Bob is not heard in his line with its line end, so blanks behind a line can matter. -/
theorem ofText_append_lineEnd_unheard :
    ¬ ∀ line w : Text, '\n' ∉ line → line ≠ ['#'] → line ≠ ['#', '#'] →
      (∀ c ∈ w, Text.isBlank c = true) → ofText (line ++ w) = ofText line := by
  intro h
  have hsame := h "Bob: Hi.".toList ['\n'] (by decide) (by decide) (by decide)
    (List.forall_mem_singleton.mpr rfl)
  exact absurd hsame (by decide)

end Line

end StoryScript
