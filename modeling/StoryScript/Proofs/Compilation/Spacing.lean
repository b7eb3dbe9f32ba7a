/-
# `StoryScript.Proofs.Compilation.Spacing` — the layout of a script does not matter

What a script says is in its lines, as far as they are not blank.  How it is laid out is
the writer's business and the editor's:

    returned      a newline becomes a carriage return and a newline
    ended         a newline is put at the end
    marked        a byte order mark is put in front
    interlined    a line of blanks is inserted behind another line
    padded        blanks are put behind a line

Each of these edits may be made any number of times, and undone (`Script.Respaced`), and
the compilation comes to the same all the while (`compileText_respaced`).  The exception
is a line of marks alone: a space behind `#` or `##` makes a heading of it.

A layout is an affair of the text between two newlines, not of the lines as they are read,
so the edits are followed through `Text.splitAt` and the reading is left out
(`Script.told_lines`): what it does to a line end is one more thing that says nothing.
-/
import Mathlib.Data.List.Induction
import Mathlib.Logic.Relation
import StoryScript.Proofs.Compilation.Feeding

namespace StoryScript

namespace Script

/-! ## Edits of the layout -/

/-- A line may start behind the text. -/
def EndsLine (t : Text) : Prop := t = [] ∨ t.getLast? = some '\n'

/-- A line may end in front of the text. -/
def StartsEnd (t : Text) : Prop := t = [] ∨ ['\n'] <+: t ∨ ['\r', '\n'] <+: t

instance (t : Text) : Decidable (EndsLine t) := inferInstanceAs (Decidable (_ ∨ _))

instance (t : Text) : Decidable (StartsEnd t) := inferInstanceAs (Decidable (_ ∨ _ ∨ _))

/-- One edit of the layout of a text. -/
inductive Respacing : Text → Text → Prop
  /-- A newline becomes a carriage return and a newline. -/
  | returned (front back : Text) :
      Respacing (front ++ '\n' :: back) (front ++ '\r' :: '\n' :: back)
  /-- A newline is put at the end. -/
  | ended (t : Text) : Respacing t (t ++ ['\n'])
  /-- A byte order mark is put in front. -/
  | marked (t : Text) : Respacing t (Source.byteOrderMark :: t)
  /-- A line of blanks is inserted behind another line. -/
  | interlined {front blanks : Text} (back : Text) : front.getLast? = some '\n' →
      (∀ c ∈ blanks, Text.isBlank c = true) → '\n' ∉ blanks →
      Respacing (front ++ back) (front ++ (blanks ++ '\n' :: back))
  /-- Blanks are put behind a line whose text, less the marks if it is the first, is not
  `#` and not `##`. -/
  | padded {front line blanks back : Text} : EndsLine front → '\n' ∉ line → StartsEnd back →
      (∀ c ∈ blanks, Text.isBlank c = true) → '\n' ∉ blanks →
      (if front = [] then Source.unmarkedLine line else line) ∉ [['#'], ['#', '#']] →
      Respacing (front ++ (line ++ back)) (front ++ (line ++ (blanks ++ back)))

/-- Texts that differ in their layout only: edits lead from one to the other, as many as it
takes, made or undone. -/
def Respaced : Text → Text → Prop := Relation.EqvGen Respacing

/-! ## What lines tell -/

/-- What lines tell, blank ones apart. -/
def told (texts : List Text) : List Line :=
  ((unmarkFirst texts).map Line.ofText).filter (· != .blank)

theorem unmarkFirst_append {front : List Text} (h : front ≠ []) (back : List Text) :
    unmarkFirst (front ++ back) = unmarkFirst front ++ back := by
  cases front with
  | nil => exact absurd rfl h
  | cons _ _ => rfl

theorem told_append {front : List Text} (h : front ≠ []) (back : List Text) :
    told (front ++ back) = told front ++ (back.map Line.ofText).filter (· != .blank) := by
  rw [told, unmarkFirst_append h, List.map_append, List.filter_append]
  rfl

theorem told_append_nil (texts : List Text) : told (texts ++ [[]]) = told texts := by
  by_cases h : texts = []
  · rw [h]
    rfl
  · rw [told_append h]
    exact List.append_nil _

theorem told_append_blank {front : List Text} (h : front ≠ []) {blanks : Text}
    (hblanks : ∀ c ∈ blanks, Text.isBlank c = true) (hnewline : '\n' ∉ blanks)
    (back : List Text) : told (front ++ blanks :: back) = told (front ++ back) := by
  rw [told_append h, told_append h, List.map_cons, Line.ofText_blanks hblanks hnewline]
  rfl

theorem told_congr {front front' back : List Text} {line line' : Text}
    (hfront : told front = told front') (hnil : front = [] ↔ front' = [])
    (hline : Line.ofText (if front = [] then Source.unmarkedLine line else line) =
      Line.ofText (if front = [] then Source.unmarkedLine line' else line')) :
    told (front ++ line :: back) = told (front' ++ line' :: back) := by
  simp only [told] at hfront
  simp only [told, unmarkFirst_append_cons, List.map_append, List.filter_append, List.map_cons,
    hfront, ← hnil, hline]

theorem told_map_dropReturn (texts : List Text) :
    told (texts.map Text.dropReturn) = told texts := by
  rw [told, map_ofText_unmarkFirst_map_dropReturn, told]

/-- Blanks behind a line change nothing of what is told, unless they make a heading of its marks.
-/
theorem told_append_blanks {front back : List Text} {line blanks : Text}
    (hblanks : ∀ c ∈ blanks, Text.isBlank c = true) (hnewline : '\n' ∉ blanks)
    (hmarks : (if front = [] then Source.unmarkedLine line else line) ∈ [['#'], ['#', '#']] →
      blanks.head? ≠ some ' ') :
    told (front ++ (line ++ blanks) :: back) = told (front ++ line :: back) := by
  refine told_congr rfl Iff.rfl ?_
  have hmark : Source.byteOrderMark ∉ blanks := fun h => absurd (hblanks _ h) (by decide)
  have hunmarked : (if front = [] then Source.unmarkedLine (line ++ blanks) else line ++ blanks) =
      (if front = [] then Source.unmarkedLine line else line) ++ blanks := by
    split
    · exact Source.unmarkedLine_append hmark line
    · rfl
  rw [hunmarked]
  refine Line.ofText_append_blanks hblanks hnewline fun h => hmarks ?_
  simpa using h

theorem told_lines (t : Text) : told (Text.lines t) = told (Text.splitAt '\n' t) := by
  rcases List.eq_nil_or_concat (Text.splitAt '\n' t) with h | ⟨init, last, h⟩
  · exact absurd h (Text.splitAt_ne_nil _ _)
  · rw [List.concat_eq_append] at h
    simp only [Text.lines, h, List.dropLast_concat, List.getLast?_concat]
    cases last with
    | nil =>
        rw [told_append_nil, ← told_map_dropReturn init]
        exact congrArg told (List.append_nil _)
    | cons c rest =>
        exact told_congr (told_map_dropReturn init) List.map_eq_nil_iff rfl

/-! ## What an edit leaves alone -/

theorem exists_splitAt_of_endsLine {front : Text} (h : EndsLine front) :
    ∃ parts, (parts = [] ↔ front = []) ∧
      ∀ t, Text.splitAt '\n' (front ++ t) = parts ++ Text.splitAt '\n' t := by
  rcases h with rfl | h
  · exact ⟨[], ⟨fun _ => rfl, fun _ => rfl⟩, fun _ => rfl⟩
  · obtain ⟨init, rfl⟩ := List.getLast?_eq_some_iff.mp h
    refine ⟨Text.splitAt '\n' init, ?_, ?_⟩
    · simp [Text.splitAt_ne_nil]
    · intro t
      rw [List.append_assoc]
      exact Text.splitAt_append_sep '\n' init t

theorem exists_splitAt_of_startsEnd {back : Text} (h : StartsEnd back) :
    ∃ ending parts, (ending = [] ∨ ending = ['\r']) ∧ ∀ line, '\n' ∉ line →
      Text.splitAt '\n' (line ++ back) = (line ++ ending) :: parts := by
  rcases h with rfl | ⟨rest, rfl⟩ | ⟨rest, rfl⟩
  · refine ⟨[], [], Or.inl rfl, fun line hline => ?_⟩
    rw [List.append_nil, Text.splitAt_of_not_mem hline]
  · refine ⟨[], Text.splitAt '\n' rest, Or.inl rfl, fun line hline => ?_⟩
    rw [List.append_nil]
    exact Text.splitAt_append_cons hline rest
  · refine ⟨['\r'], Text.splitAt '\n' rest, Or.inr rfl, fun line hline => ?_⟩
    have hreturn : '\n' ∉ line ++ ['\r'] := by simp [hline]
    rw [← Text.splitAt_append_cons hreturn, List.append_assoc]
    rfl

theorem exists_lastLine (t : Text) : ∃ front line, t = front ++ line ∧ EndsLine front ∧
    '\n' ∉ line := by
  induction t using List.reverseRecOn with
  | nil => exact ⟨[], [], rfl, Or.inl rfl, List.not_mem_nil⟩
  | append_singleton t c ih =>
      by_cases hc : c = '\n'
      · refine ⟨t ++ [c], [], (List.append_nil _).symm, Or.inr ?_, List.not_mem_nil⟩
        rw [List.getLast?_concat, hc]
      · obtain ⟨front, line, rfl, hfront, hline⟩ := ih
        refine ⟨front, line ++ [c], List.append_assoc _ _ _, hfront, ?_⟩
        simp [hline, Ne.symm hc]

/-- **An edit of the layout changes nothing of what is told.** -/
theorem Respacing.told_eq {t t' : Text} (h : Respacing t t') :
    told (Text.splitAt '\n' t) = told (Text.splitAt '\n' t') := by
  cases h with
  | returned front back =>
      obtain ⟨lead, line, rfl, hlead, hline⟩ := exists_lastLine front
      obtain ⟨parts, -, hparts⟩ := exists_splitAt_of_endsLine hlead
      have hreturn : '\n' ∉ line ++ ['\r'] := by simp [hline]
      have hsplit := Text.splitAt_append_cons hreturn back
      rw [List.append_assoc] at hsplit
      rw [List.append_assoc, List.append_assoc, hparts, hparts, Text.splitAt_append_cons hline,
        show line ++ '\r' :: '\n' :: back = line ++ (['\r'] ++ '\n' :: back) from rfl, hsplit]
      have hblank : ∀ c ∈ ['\r'], Text.isBlank c = true := List.forall_mem_singleton.mpr rfl
      exact (told_append_blanks hblank (by decide) fun _ => by decide).symm
  | ended =>
      rw [Text.splitAt_append_sep]
      exact (told_append_nil _).symm
  | marked =>
      obtain ⟨part, more, hparts⟩ :=
        List.exists_cons_of_ne_nil (Text.splitAt_ne_nil '\n' t)
      have hsplit : Text.splitAt '\n' (Source.byteOrderMark :: t) =
          (Source.byteOrderMark :: part) :: more := by
        rw [Text.splitAt, if_neg (by decide), hparts]
      have hmark : Source.unmarkedLine (Source.byteOrderMark :: part) =
          Source.unmarkedLine part :=
        List.dropWhile_cons_of_pos (by decide)
      rw [hsplit, hparts, told, told, unmarkFirst, unmarkFirst, hmark]
  | @interlined front blanks back hfront hblanks hnewline =>
      obtain ⟨parts, hnil, hparts⟩ := exists_splitAt_of_endsLine (Or.inr hfront)
      have hne : parts ≠ [] := by
        intro h
        rw [hnil.mp h] at hfront
        cases hfront
      rw [hparts, hparts, Text.splitAt_append_cons hnewline,
        told_append_blank hne hblanks hnewline]
  | @padded front line blanks back hfront hline hback hblanks hnewline htext =>
      obtain ⟨parts, hnil, hparts⟩ := exists_splitAt_of_endsLine hfront
      obtain ⟨ending, more, hending, hmore⟩ := exists_splitAt_of_startsEnd hback
      have hblank : ∀ c ∈ ending, Text.isBlank c = true := by
        rcases hending with rfl | rfl <;> exact List.all_eq_true.mp rfl
      have hplain : '\n' ∉ ending := by
        rcases hending with rfl | rfl <;> decide
      have hlong : '\n' ∉ line ++ blanks := by simp [hline, hnewline]
      simp only [← hnil] at htext
      rw [hparts, hparts, hmore line hline, ← List.append_assoc, hmore _ hlong,
        List.append_assoc, told_append_blanks hblank hplain fun h => absurd h htext]
      refine (told_append_blanks ?_ ?_ fun h => absurd h htext).symm
      · exact List.forall_mem_append.mpr ⟨hblanks, hblank⟩
      · simp [hnewline, hplain]

theorem Respaced.told_eq {t t' : Text} (h : Respaced t t') :
    told (Text.splitAt '\n' t) = told (Text.splitAt '\n' t') := by
  induction h with
  | rel _ _ hedit => exact hedit.told_eq
  | refl _ => rfl
  | symm _ _ _ ih => exact ih.symm
  | trans _ _ _ _ _ ih ih' => exact ih.trans ih'

end Script

/-! ## What a compilation hears -/

namespace Session

variable {σ : Type} [Sink σ] {cfg : Config} {s : Session σ}

theorem feed_of_blank {text : Text} (h : Line.ofText text = .blank) :
    s.feed cfg text = (.ok (), s) := by
  unfold feed
  rw [h]
  cases s.progress.phase <;> rfl

theorem feedEach_filter (texts : List Text) :
    s.feedEach cfg (texts.filter fun text => Line.ofText text != .blank) =
      s.feedEach cfg texts := by
  induction texts generalizing s with
  | nil => rfl
  | cons text rest ih =>
      by_cases h : Line.ofText text = .blank
      · rw [List.filter_cons_of_neg (by simp [h]), ih, feedEach, feed_of_blank h]
        rfl
      · rw [List.filter_cons_of_pos (by simp [h]), feedEach, feedEach]
        simp only [ih]

/-- A session does the same with all texts of which the same is told. -/
theorem feedEach_of_told_eq {texts texts' : List Text}
    (h : Script.told texts = Script.told texts') :
    s.feedEach cfg (Script.unmarkFirst texts) = s.feedEach cfg (Script.unmarkFirst texts') := by
  rw [← feedEach_filter (Script.unmarkFirst texts), ← feedEach_filter (Script.unmarkFirst texts')]
  refine feedEach_congr ?_
  rw [Script.told, Script.told, List.filter_map, List.filter_map] at h
  exact h

end Session

/-- **The layout of a script does not matter.**  Texts that differ in their layout only
compile alike, into any sink: with the same result, the same files and even the same
log. -/
theorem compileText_respaced {σ : Type} [Sink σ] (cfg : Config) {t t' : Text}
    (h : Script.Respaced t t') (sink : σ) : compileText cfg t sink = compileText cfg t' sink := by
  have hfeed (u : Text) : compileText cfg u sink =
      (({ sink } : Session σ).feedEach cfg (Script.unmarkFirst (Text.lines u))).andThen
        (·.finish cfg) := by
    rw [compileText, compile, Session.run, Source.lines_ofText, Script.unmarked_map_ok,
      Session.feedAll_map_ok, Session.finishAfter_eq_andThen]
  have htold : Script.told (Text.lines t) = Script.told (Text.lines t') := by
    rw [Script.told_lines, Script.told_lines, h.told_eq]
  rw [hfeed, hfeed, Session.feedEach_of_told_eq htold]

/-- A script to which all five edits of the layout are made. -/
theorem compileText_respaced_five_times :
    let plain := "# Script\n## Day\nBob: Hi.".toList
    let respaced := "\ufeff# Script \r\n\t\n## Day\nBob: Hi.\n".toList
    Script.Respaced plain respaced ∧
      (compileText {} respaced ({} : Memory)).1 =
        .ok ⟨["Day".toList], ["Bob".toList], [⟨"Scenes/Day.cs".toList⟩,
          ⟨"Transition.cs".toList⟩, ⟨"Dialog.cs".toList⟩]⟩ := by
  intro plain respaced
  let rest := "## Day\nBob: Hi.".toList
  let blank := "# Script \r\n".toList ++ ("\t".toList ++ '\n' :: rest)
  have hpadded : Script.Respacing plain ("# Script ".toList ++ '\n' :: rest) :=
    @Script.Respacing.padded [] "# Script".toList [' '] ('\n' :: rest) (by decide) (by decide)
      (by decide) (List.forall_mem_singleton.mpr rfl) (by decide) (by decide)
  have hreturned : Script.Respacing ("# Script ".toList ++ '\n' :: rest)
      ("# Script \r\n".toList ++ rest) :=
    .returned "# Script ".toList rest
  have hinterlined : Script.Respacing ("# Script \r\n".toList ++ rest) blank :=
    .interlined rest (by decide) (List.forall_mem_singleton.mpr rfl) (by decide)
  have hmarked : Script.Respacing blank (Source.byteOrderMark :: blank) := .marked blank
  have hended : Script.Respacing (Source.byteOrderMark :: blank) respaced := .ended _
  have hrespaced : Script.Respaced plain respaced :=
    .trans _ _ _ (.rel _ _ hpadded) (.trans _ _ _ (.rel _ _ hreturned)
      (.trans _ _ _ (.rel _ _ hinterlined) (.trans _ _ _ (.rel _ _ hmarked) (.rel _ _ hended))))
  refine ⟨hrespaced, ?_⟩
  rw [← compileText_respaced {} hrespaced]
  rfl

end StoryScript
