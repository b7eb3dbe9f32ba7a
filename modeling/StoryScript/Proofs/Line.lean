/-
# `StoryScript.Proofs.Line` — what a line of a statement is made of

A spoken line falls into four parts, of which the blanks and the colon are not kept:

    blanks ++ speaker ++ ':' ++ rest

The first colon of the line is the one after the speaker, so what is said can be told
from the line without knowing the speaker (`Dialogue.saidIn`).  Nothing comes into a
statement that is not in its line, except the backslashes of the literal; so a line
without a newline makes a statement without one.

The parts determine what is read (`Dialogue.ofLine?_eq_some_iff`), and so what stands
behind them does not matter as long as it is blank and no newline.  The same holds of
every line but those that a space makes a heading (`Line.ofText_append_blanks`); in
particular no line means anything else for a carriage return at its end.
-/
import Mathlib.Data.List.TakeWhile
import StoryScript.Line
import StoryScript.Proofs.Text.Blank
import StoryScript.Proofs.Text.Lines

namespace StoryScript

namespace Dialogue

/-! ## What is said -/

theorem dropQuote_subset (t : Text) : dropQuote t ⊆ t := by
  unfold dropQuote
  split
  · exact List.subset_cons_self _ _
  · exact List.Subset.refl t

theorem unquote_subset (t : Text) : unquote t ⊆ t := by
  intro c hc
  have hinner := Text.trim_subset _ hc
  rw [List.mem_reverse] at hinner
  have houter := dropQuote_subset _ hinner
  rw [List.mem_reverse] at houter
  exact Text.trim_subset t (dropQuote_subset _ houter)

theorem unquote_blanks_append {w : Text} (hw : ∀ c ∈ w, Text.isBlank c = true) (t : Text) :
    unquote (w ++ t) = unquote t := by
  rw [unquote, Text.trim_blanks_append hw, unquote]

theorem unquote_append_blanks {w : Text} (hw : ∀ c ∈ w, Text.isBlank c = true) (t : Text) :
    unquote (t ++ w) = unquote t := by
  rw [unquote, Text.trim_append_blanks hw, unquote]

theorem not_mem_escape {t : Text} {c : Char} (hc : c ≠ '\\') (h : c ∉ t) : c ∉ escape t := by
  intro hmem
  rw [escape, List.mem_flatMap] at hmem
  obtain ⟨x, hx, hpiece⟩ := hmem
  split at hpiece
  · rcases List.mem_cons.mp hpiece with rfl | hpiece
    · exact hc rfl
    · exact h (List.mem_singleton.mp hpiece ▸ hx)
  · exact h (List.mem_singleton.mp hpiece ▸ hx)

theorem escape_cons (c : Char) (t : Text) :
    escape (c :: t) = (if c = '\\' ∨ c = '"' then ['\\', c] else [c]) ++ escape t :=
  List.flatMap_cons

theorem escape_eq_nil_iff {t : Text} : escape t = [] ↔ t = [] := by
  cases t with
  | nil => exact ⟨fun _ => rfl, fun _ => rfl⟩
  | cons c rest =>
      rw [escape_cons]
      split
      · exact ⟨nofun, nofun⟩
      · exact ⟨nofun, nofun⟩

theorem head?_escape (t : Text) :
    (escape t).head? = t.head?.map fun c => if c = '\\' ∨ c = '"' then '\\' else c := by
  cases t with
  | nil => rfl
  | cons c rest =>
      rw [escape_cons, List.head?_cons, Option.map_some]
      split
      · rfl
      · rfl

theorem getLast?_escape (t : Text) : (escape t).getLast? = t.getLast? := by
  rcases List.eq_nil_or_concat t with rfl | ⟨init, c, rfl⟩
  · rfl
  · rw [List.concat_eq_append, escape, List.flatMap_append, List.flatMap_singleton,
      List.getLast?_concat, List.getLast?_append]
    split
    · rfl
    · rfl

theorem trim_escape {t : Text} (h : Text.trim t = t) : Text.trim (escape t) = escape t := by
  obtain ⟨hhead, hlast⟩ := Text.trim_eq_self_iff.mp h
  rw [Text.trim_eq_self_iff, head?_escape, getLast?_escape]
  refine ⟨?_, hlast⟩
  cases t with
  | nil => exact nofun
  | cons c rest =>
      rw [List.head?_cons, Option.map_some, Option.map_some]
      split
      · decide
      · exact hhead

/-! ## A spoken line -/

/-- What is said in a line that somebody speaks. -/
def saidIn (line : Text) : Text := unquote (line.dropWhile (· != ':')).tail

theorem exists_parts_of_ofLine? {line : Text} {d : Dialogue} (h : ofLine? line = some d) :
    ∃ blanks rest, line = blanks ++ (d.speaker ++ ':' :: rest) ∧
      (∀ c ∈ blanks, Text.isBlank c = true) ∧ d.speaker ≠ [] ∧
      (∀ c ∈ d.speaker, c.isAlphanum = true) ∧ '\n' ∉ rest ∧ unquote rest ≠ [] ∧
      d.literal = escape (unquote rest) := by
  simp only [ofLine?] at h
  split at h
  · rename_i c name rest hname hrest
    split at h
    · cases h
    · rename_i hnewline
      split at h
      · cases h
      · rename_i hsaid
        cases h
        refine ⟨line.takeWhile Text.isBlank, rest, ?_, ?_, List.cons_ne_nil _ _, ?_, hnewline,
          hsaid, rfl⟩
        · rw [← hname, ← hrest, List.takeWhile_append_dropWhile]
          exact List.takeWhile_append_dropWhile.symm
        · exact fun c hc => List.mem_takeWhile_imp hc
        · intro x hx
          rw [← hname] at hx
          exact List.mem_takeWhile_imp hx
  · cases h

/-- The first colon of a spoken line is the one after the speaker. -/
theorem saidIn_append {blanks speaker : Text} (hblanks : ∀ c ∈ blanks, Text.isBlank c = true)
    (hspeaker : ∀ c ∈ speaker, c.isAlphanum = true) (rest : Text) :
    saidIn (blanks ++ (speaker ++ ':' :: rest)) = unquote rest := by
  have hb : ∀ c ∈ blanks, (c != ':') = true := by
    intro c hc
    refine bne_iff_ne.mpr fun e => ?_
    exact absurd (hblanks c hc) (by rw [e]; decide)
  have hs : ∀ c ∈ speaker, (c != ':') = true := by
    intro c hc
    refine bne_iff_ne.mpr fun e => ?_
    exact absurd (hspeaker c hc) (by rw [e]; decide)
  rw [saidIn, List.dropWhile_append_of_pos hb, List.dropWhile_append_of_pos hs]
  rfl

theorem literal_of_ofLine? {line : Text} {d : Dialogue} (h : ofLine? line = some d) :
    d.literal = escape (saidIn line) := by
  obtain ⟨blanks, rest, rfl, hblanks, -, hspeaker, -, -, hliteral⟩ := exists_parts_of_ofLine? h
  rw [hliteral, saidIn_append hblanks hspeaker]

theorem isAlphanum_of_ofLine? {line : Text} {d : Dialogue} (h : ofLine? line = some d) :
    ∀ c ∈ d.speaker, c.isAlphanum = true := by
  obtain ⟨-, -, -, -, -, hspeaker, -⟩ := exists_parts_of_ofLine? h
  exact hspeaker

theorem ofLine?_append {blanks speaker rest : Text}
    (hblanks : ∀ c ∈ blanks, Text.isBlank c = true) (hne : speaker ≠ [])
    (hspeaker : ∀ c ∈ speaker, c.isAlphanum = true) (hnewline : '\n' ∉ rest)
    (hsaid : unquote rest ≠ []) :
    ofLine? (blanks ++ (speaker ++ ':' :: rest)) = some ⟨speaker, escape (unquote rest)⟩ := by
  have hcolon : ¬ (':' : Char).isAlphanum = true := by decide
  obtain ⟨c, name, rfl⟩ := List.exists_cons_of_ne_nil hne
  have hc := Text.not_isBlank_of_isAlphanum (hspeaker c List.mem_cons_self)
  have hbody : Text.trimStart (blanks ++ (c :: name ++ ':' :: rest)) = c :: name ++ ':' :: rest := by
    rw [Text.trimStart, List.dropWhile_append_of_pos hblanks, List.cons_append,
      List.dropWhile_cons_of_neg hc]
  have hname : (c :: name ++ ':' :: rest).takeWhile Char.isAlphanum = c :: name := by
    rw [List.takeWhile_append_of_pos hspeaker, List.takeWhile_cons_of_neg hcolon, List.append_nil]
  have hrest : (c :: name ++ ':' :: rest).dropWhile Char.isAlphanum = ':' :: rest := by
    rw [List.dropWhile_append_of_pos hspeaker, List.dropWhile_cons_of_neg hcolon]
  simp only [ofLine?, hbody, hname, hrest, if_neg hnewline]

/-- A spoken line is blanks, a speaker of letters and digits, a colon and something to say. -/
theorem ofLine?_eq_some_iff {line : Text} {d : Dialogue} :
    ofLine? line = some d ↔ ∃ blanks rest, line = blanks ++ (d.speaker ++ ':' :: rest) ∧
      (∀ c ∈ blanks, Text.isBlank c = true) ∧ d.speaker ≠ [] ∧
      (∀ c ∈ d.speaker, c.isAlphanum = true) ∧ '\n' ∉ rest ∧ unquote rest ≠ [] ∧
      d.literal = escape (unquote rest) := by
  constructor
  · exact exists_parts_of_ofLine?
  · rintro ⟨blanks, rest, rfl, hblanks, hne, hspeaker, hnewline, hsaid, hliteral⟩
    rw [ofLine?_append hblanks hne hspeaker hnewline hsaid, ← hliteral]

theorem exists_rest_of_append {line w front rest : Text} (hw : ':' ∉ w)
    (h : line ++ w = front ++ ':' :: rest) :
    ∃ more, line = front ++ ':' :: more ∧ rest = more ++ w := by
  rcases List.append_eq_append_iff.mp h with ⟨more, -, hmore⟩ | ⟨more, hline, hmore⟩
  · exact absurd (hmore ▸ List.mem_append_right _ List.mem_cons_self) hw
  · cases more with
    | nil =>
        rw [List.nil_append] at hmore
        exact absurd (hmore ▸ List.mem_cons_self) hw
    | cons c more =>
        rw [List.cons_append, List.cons.injEq] at hmore
        obtain ⟨rfl, rfl⟩ := hmore
        exact ⟨more, hline, rfl⟩

theorem colon_not_mem_blanks {w : Text} (hw : ∀ c ∈ w, Text.isBlank c = true) : ':' ∉ w :=
  fun h => absurd (hw _ h) (by decide)

/-- Blanks without a newline behind a line change nothing of who says what in it. -/
theorem ofLine?_append_blanks {w : Text} (hw : ∀ c ∈ w, Text.isBlank c = true)
    (hnewline : '\n' ∉ w) (line : Text) : ofLine? (line ++ w) = ofLine? line := by
  ext d
  simp only [ofLine?_eq_some_iff]
  constructor
  · rintro ⟨blanks, rest, hline, hblanks, hne, hspeaker, hrest, hsaid, hliteral⟩
    rw [← List.append_assoc] at hline
    obtain ⟨more, rfl, rfl⟩ := exists_rest_of_append (colon_not_mem_blanks hw) hline
    rw [unquote_append_blanks hw] at hsaid hliteral
    refine ⟨blanks, more, List.append_assoc _ _ _, hblanks, hne, hspeaker, ?_, hsaid, hliteral⟩
    exact fun h => hrest (List.mem_append_left _ h)
  · rintro ⟨blanks, rest, rfl, hblanks, hne, hspeaker, hrest, hsaid, hliteral⟩
    refine ⟨blanks, rest ++ w, ?_, hblanks, hne, hspeaker, ?_, ?_, ?_⟩
    · simp only [List.append_assoc, List.cons_append]
    · rw [List.mem_append, not_or]
      exact ⟨hrest, hnewline⟩
    · rwa [unquote_append_blanks hw]
    · rwa [unquote_append_blanks hw]

/-- A line with a newline among the blanks behind it is spoken by nobody. -/
theorem ofLine?_append_newline {w : Text} (hw : ∀ c ∈ w, Text.isBlank c = true)
    (hnewline : '\n' ∈ w) (line : Text) : ofLine? (line ++ w) = none := by
  rw [Option.eq_none_iff_forall_ne_some]
  intro d hd
  obtain ⟨blanks, rest, hline, -, -, -, hrest, -⟩ := exists_parts_of_ofLine? hd
  rw [← List.append_assoc] at hline
  obtain ⟨more, -, rfl⟩ := exists_rest_of_append (colon_not_mem_blanks hw) hline
  exact hrest (List.mem_append_right _ hnewline)

theorem not_mem_saidIn {line : Text} {c : Char} (h : c ∉ line) : c ∉ saidIn line := by
  intro hc
  have htail := List.mem_of_mem_tail (unquote_subset _ hc)
  exact h ((List.dropWhile_sublist _).subset htail)

end Dialogue

/-! ## The statement of a line -/

namespace Line

theorem ofText_eq_statement {line : Text} {s : Statement} (h : ofText line = .statement s) :
    (∃ d, s = .say d ∧ Dialogue.ofLine? line = some d) ∨ s = .pause ∨
      s = .comment (Text.trim line) := by
  unfold ofText at h
  split at h
  · cases h
  · cases h
  · split at h
    · rename_i d hd
      cases h
      exact Or.inl ⟨d, rfl, hd⟩
    · unfold ofPlain at h
      split at h
      · cases h
        exact Or.inr (Or.inl rfl)
      · split at h
        · cases h
        · cases h
          exact Or.inr (Or.inr rfl)

theorem exists_of_ofText_title {line heading : Text} (h : ofText line = .title heading) :
    ∃ rest, line = '#' :: ' ' :: rest ∧ heading = Text.trim rest := by
  unfold ofText at h
  split at h
  · cases h
  · rename_i rest
    cases h
    exact ⟨rest, rfl, rfl⟩
  · split at h
    · cases h
    · unfold ofPlain at h
      split at h
      · cases h
      · split at h
        · cases h
        · cases h

theorem head?_of_ofText_title {line heading : Text} (h : ofText line = .title heading) :
    line.head? ≠ some Source.byteOrderMark := by
  obtain ⟨rest, rfl, -⟩ := exists_of_ofText_title h
  show some '#' ≠ some Source.byteOrderMark
  decide

theorem head?_of_ofLine? {line : Text} {d : Dialogue} (h : Dialogue.ofLine? line = some d) :
    ∃ c, line.head? = some c ∧ c ≠ '#' := by
  obtain ⟨blanks, rest, rfl, hblanks, hne, hspeaker, -⟩ := Dialogue.exists_parts_of_ofLine? h
  cases blanks with
  | nil =>
      obtain ⟨c, name, hname⟩ := List.exists_cons_of_ne_nil hne
      rw [hname] at hspeaker ⊢
      refine ⟨c, rfl, ?_⟩
      rintro rfl
      exact absurd (hspeaker _ List.mem_cons_self) (by decide)
  | cons c more =>
      refine ⟨c, rfl, ?_⟩
      rintro rfl
      exact absurd (hblanks _ List.mem_cons_self) (by decide)

/-! ## What stands behind a line -/

theorem ofText_of_plain {line : Text} (hscene : ∀ rest, line ≠ '#' :: '#' :: ' ' :: rest)
    (htitle : ∀ rest, line ≠ '#' :: ' ' :: rest) :
    ofText line = match Dialogue.ofLine? line with
      | some d => .statement (.say d)
      | none => ofPlain (Text.trim line) := by
  unfold ofText
  split
  · exact absurd rfl (hscene _)
  · exact absurd rfl (htitle _)
  · rfl

theorem ofText_of_head? {line : Text} (h : line.head? ≠ some '#') :
    ofText line = match Dialogue.ofLine? line with
      | some d => .statement (.say d)
      | none => ofPlain (Text.trim line) := by
  refine ofText_of_plain ?_ ?_
  · rintro rest rfl
    exact h rfl
  · rintro rest rfl
    exact h rfl

theorem ofText_of_ofLine? {line : Text} {d : Dialogue} (h : Dialogue.ofLine? line = some d) :
    ofText line = .statement (.say d) := by
  obtain ⟨c, hc, hne⟩ := head?_of_ofLine? h
  rw [ofText_of_head? (by rw [hc]; exact fun h => hne (Option.some.inj h)), h]

theorem append_ne_marked (marks : Text) {line w : Text} (hw : ∀ c ∈ marks, c ∉ w)
    (hline : ∀ rest, line ≠ marks ++ ' ' :: rest) (hspace : line = marks → w.head? ≠ some ' ')
    (rest : Text) : line ++ w ≠ marks ++ ' ' :: rest := by
  intro h
  rcases List.append_eq_append_iff.mp h with ⟨more, hmarks, hmore⟩ | ⟨more, hmarks, hmore⟩
  · cases more with
    | nil =>
        rw [List.append_nil] at hmarks
        exact hspace hmarks.symm (by rw [hmore]; rfl)
    | cons c more =>
        refine hw c ?_ ?_
        · rw [hmarks]
          exact List.mem_append_right _ List.mem_cons_self
        · rw [hmore]
          exact List.mem_cons_self
  · cases more with
    | nil =>
        rw [List.append_nil] at hmarks
        exact hspace hmarks (by rw [← List.nil_append w, ← hmore]; rfl)
    | cons c more =>
        rw [List.cons_append, List.cons.injEq] at hmore
        exact hline more (by rw [hmarks, hmore.1])

theorem ofText_append_of_ofLine? {line w : Text} (hw : ∀ c ∈ w, Text.isBlank c = true)
    (hmarks : line = ['#'] ∨ line = ['#', '#'] → w.head? ≠ some ' ')
    (hsaid : Dialogue.ofLine? (line ++ w) = Dialogue.ofLine? line) :
    ofText (line ++ w) = ofText line := by
  have hmark : '#' ∉ w := fun h => absurd (hw _ h) (by decide)
  by_cases hscene : ∃ rest, line = '#' :: '#' :: ' ' :: rest
  · obtain ⟨rest, rfl⟩ := hscene
    exact congrArg Line.scene (Text.trim_append_blanks hw rest)
  by_cases htitle : ∃ rest, line = '#' :: ' ' :: rest
  · obtain ⟨rest, rfl⟩ := htitle
    exact congrArg Line.title (Text.trim_append_blanks hw rest)
  have hscene' : ∀ rest, line ++ w ≠ '#' :: '#' :: ' ' :: rest :=
    append_ne_marked ['#', '#'] (by simpa using hmark) (not_exists.mp hscene)
      fun h => hmarks (Or.inr h)
  have htitle' : ∀ rest, line ++ w ≠ '#' :: ' ' :: rest :=
    append_ne_marked ['#'] (by simpa using hmark) (not_exists.mp htitle)
      fun h => hmarks (Or.inl h)
  rw [ofText_of_plain hscene' htitle', hsaid, Text.trim_append_blanks hw,
    ofText_of_plain (not_exists.mp hscene) (not_exists.mp htitle)]

/-- Blanks behind a line do not change what it means, unless there is a newline among them or
they make a heading of its marks. -/
theorem ofText_append_blanks {line w : Text} (hw : ∀ c ∈ w, Text.isBlank c = true)
    (hnewline : '\n' ∉ w) (hmarks : line = ['#'] ∨ line = ['#', '#'] → w.head? ≠ some ' ') :
    ofText (line ++ w) = ofText line :=
  ofText_append_of_ofLine? hw hmarks (Dialogue.ofLine?_append_blanks hw hnewline line)

theorem ofText_blanks {w : Text} (hw : ∀ c ∈ w, Text.isBlank c = true) (hnewline : '\n' ∉ w) :
    ofText w = .blank := by
  refine @ofText_append_blanks [] w hw hnewline ?_
  rintro (hmark | hmarks)
  · cases hmark
  · cases hmarks

theorem ofText_dropReturn (line : Text) : ofText (Text.dropReturn line) = ofText line := by
  unfold Text.dropReturn
  split
  · rename_i h
    obtain ⟨init, rfl⟩ := List.getLast?_eq_some_iff.mp h
    rw [List.dropLast_concat]
    have hblank : ∀ c ∈ ['\r'], Text.isBlank c = true := List.forall_mem_singleton.mpr rfl
    exact (ofText_append_blanks hblank (by decide) fun _ => by decide).symm
  · rfl

end Line

end StoryScript
