/-
# `StoryScript.Proofs.Compilation.Feeding` — lines from a caller, and lines from a source

A session takes in lines without knowing where they come from.  A caller may feed it
one by one and stop at the first failure (`feedEach`) or go on regardless (`feedOn`); a
source is read until the script ends or something fails (`feedAll`).  Three differences
lie between a caller and a source, and none of them counts:

    a source is not read on when the script has ended   what is fed then has no effect
    it takes the carriage return off a line             the line means the same
    it takes marks off its first line                   where there are some

So a script may be fed, or read, or fed up to any line and read from there on
(`compile_split`).
-/
import StoryScript.Proofs.Compilation.Step
import StoryScript.Proofs.Line

namespace StoryScript

/-! ## The first line -/

namespace Script

/-- The lines without any byte order marks in front of the first. -/
def unmarkFirst : List Text → List Text
  | [] => []
  | first :: rest => Source.unmarkedLine first :: rest

theorem unmarkFirst_of_head? {texts : List Text}
    (h : ∀ text ∈ texts.head?, text.head? ≠ some Source.byteOrderMark) :
    unmarkFirst texts = texts := by
  cases texts with
  | nil => rfl
  | cons first rest => exact congrArg (· :: rest) (Source.unmarkedLine_of_head? (h first rfl))

theorem map_ofText_unmarkFirst_map_dropReturn (texts : List Text) :
    (unmarkFirst (texts.map Text.dropReturn)).map Line.ofText =
      (unmarkFirst texts).map Line.ofText := by
  have hrest (rest : List Text) :
      (rest.map Text.dropReturn).map Line.ofText = rest.map Line.ofText := by
    rw [List.map_map]
    exact List.map_congr_left fun line _ => Line.ofText_dropReturn line
  cases texts with
  | nil => rfl
  | cons first rest =>
      simp only [List.map_cons, unmarkFirst, hrest, Source.unmarkedLine_dropReturn,
        Line.ofText_dropReturn]

theorem unmarkFirst_append_cons (front : List Text) (text : Text) (back : List Text) :
    unmarkFirst (front ++ text :: back) =
      unmarkFirst front ++ (if front = [] then Source.unmarkedLine text else text) :: back := by
  cases front with
  | nil => rfl
  | cons _ _ => rfl

theorem unmarked_map_ok (texts : List Text) :
    Source.unmarked (texts.map .ok) = (unmarkFirst texts).map .ok := by
  cases texts with
  | nil => rfl
  | cons _ _ => rfl

end Script

namespace Session

variable {σ : Type} [Sink σ]

/-! ## Feeding -/

/-- Takes in lines one after the other, up to the first that fails. -/
def feedEach (cfg : Config) (s : Session σ) : List Text → Outcome σ Unit
  | [] => (.ok (), s)
  | text :: rest => (s.feed cfg text).andThen fun s => s.feedEach cfg rest

/-- Takes in lines one after the other, and goes on when one has failed. -/
def feedOn (cfg : Config) (s : Session σ) (texts : List Text) : Session σ :=
  texts.foldl (fun s text => (s.feed cfg text).2) s

variable {cfg : Config} {s : Session σ}

theorem feed_congr {text text' : Text} (h : Line.ofText text = Line.ofText text') :
    s.feed cfg text = s.feed cfg text' := by
  unfold feed
  rw [h]

theorem feedEach_append (front back : List Text) :
    s.feedEach cfg (front ++ back) = (s.feedEach cfg front).andThen (·.feedEach cfg back) := by
  induction front generalizing s with
  | nil => rfl
  | cons text rest ih => simp only [List.cons_append, feedEach, Outcome.andThen_assoc, ih]

theorem feedEach_of_ended (h : s.progress.phase = .ended) (texts : List Text) :
    s.feedEach cfg texts = (.ok (), s) := by
  induction texts with
  | nil => rfl
  | cons text rest ih =>
      rw [feedEach, feed_of_ended h]
      exact ih

/-! ## Reading -/

/-- Reading lines is feeding them one by one, as lines behind the end of the script have no
effect. -/
theorem feedAll_map_ok (origin : Path) (texts : List Text) :
    s.feedAll cfg origin (texts.map .ok) = s.feedEach cfg texts := by
  induction texts generalizing s with
  | nil => rfl
  | cons text rest ih =>
      rw [List.map_cons, feedAll_cons_eq_andThen, feedEach]
      congr 1
      funext t
      split
      · rename_i hdone
        exact (feedEach_of_ended (phase_of_isDone hdone) rest).symm
      · exact ih

theorem feedAll_congr {texts texts' : List Text} (h : texts.map Line.ofText = texts'.map Line.ofText)
    (origin : Path) (rest : List (Except IoCause Text)) :
    s.feedAll cfg origin (texts.map .ok ++ rest) =
      s.feedAll cfg origin (texts'.map .ok ++ rest) := by
  induction texts generalizing s texts' with
  | nil =>
      cases texts' with
      | nil => rfl
      | cons _ _ => cases h
  | cons text more ih =>
      cases texts' with
      | nil => cases h
      | cons text' more' =>
          rw [List.map_cons, List.map_cons, List.cons.injEq] at h
          simp only [List.map_cons, List.cons_append, feedAll_cons_eq_andThen, feed_congr h.1,
            ih h.2]

theorem feedEach_congr {texts texts' : List Text}
    (h : texts.map Line.ofText = texts'.map Line.ofText) :
    s.feedEach cfg texts = s.feedEach cfg texts' := by
  have hread : s.feedAll cfg unnamedOrigin (texts.map .ok ++ []) =
      s.feedAll cfg unnamedOrigin (texts'.map .ok ++ []) := feedAll_congr h _ _
  rwa [List.append_nil, List.append_nil, feedAll_map_ok, feedAll_map_ok] at hread

theorem phase_feedEach_of_not_title (hp : s.progress.phase = .inScript) {texts : List Text}
    (h : ∀ text ∈ texts, Script.isTitle (Line.ofText text) = false) :
    (s.feedEach cfg texts).2.progress.phase = .inScript := by
  induction texts generalizing s with
  | nil => exact hp
  | cons text rest ih =>
      obtain ⟨htext, hrest⟩ := List.forall_mem_cons.mp h
      have hnext : (s.feed cfg text).2.progress.phase = .inScript :=
        phase_feed_of_not_title hp htext
      rw [feedEach]
      generalize s.feed cfg text = fed at hnext ⊢
      rcases fed with ⟨_ | _, t⟩
      · exact hnext
      · exact ih hnext hrest

theorem feedAll_append_of_not_title (hp : s.progress.phase = .inScript) (origin : Path)
    {texts : List Text} (h : ∀ text ∈ texts, Script.isTitle (Line.ofText text) = false)
    (rest : List (Except IoCause Text)) :
    s.feedAll cfg origin (texts.map .ok ++ rest) =
      (s.feedEach cfg texts).andThen (·.feedAll cfg origin rest) := by
  induction texts generalizing s with
  | nil => rfl
  | cons text more ih =>
      obtain ⟨htext, hmore⟩ := List.forall_mem_cons.mp h
      rw [List.map_cons, List.cons_append, feedAll_cons_eq_andThen, feedEach,
        Outcome.andThen_assoc]
      refine Outcome.andThen_congr ?_
      intro t ht
      have hnext : (s.feed cfg text).2.progress.phase = .inScript :=
        phase_feed_of_not_title hp htext
      rw [ht] at hnext
      rw [if_neg (by rw [isDone_eq_false hnext (by decide)]; decide)]
      exact ih hnext hmore

/-- Running on a source that holds written lines is feeding these lines and finishing. -/
theorem run_ofText_unlines {texts : List Text} (h : ∀ text ∈ texts, '\n' ∉ text)
    (origin : Path) :
    s.run cfg origin (.ofText (Text.unlines texts)) =
      (s.feedEach cfg (Script.unmarkFirst texts)).andThen (·.finish cfg) := by
  rw [run, Source.lines_ofText_unlines h, Script.unmarked_map_ok, feedAll_map_ok,
    feedEach_congr (Script.map_ofText_unmarkFirst_map_dropReturn texts), finishAfter_eq_andThen]

/-- Of a source that holds written lines and then other bytes, the written lines are fed first.
-/
theorem run_unlines_append {texts : List Text} (h : ∀ text ∈ texts, '\n' ∉ text)
    (hne : texts ≠ []) (origin : Path) (post : Bytes) (failure? : Option IoCause) :
    s.run cfg origin ⟨(Text.unlines texts).encode ++ post, failure?⟩ =
      (s.feedAll cfg origin ((Script.unmarkFirst texts).map .ok ++
        Source.lines ⟨post, failure?⟩)).andThen (·.finish cfg) := by
  have hunmarked (rest : List (Except IoCause Text)) :
      Source.unmarked ((texts.map Text.dropReturn).map .ok ++ rest) =
        (Script.unmarkFirst (texts.map Text.dropReturn)).map .ok ++ rest := by
    cases texts with
    | nil => exact absurd rfl hne
    | cons _ _ => rfl
  rw [run, Source.lines_encode_unlines_append h, hunmarked,
    feedAll_congr (Script.map_ofText_unmarkFirst_map_dropReturn texts), finishAfter_eq_andThen]

end Session

/-- **A script may be fed up to any line and read from there on.**  Feeding the lines in
front one by one, and reading a source with the others, comes to the same result and
leaves the same session, files and log included, as reading all of them, and as feeding
all of them and finishing.  As a reader takes marks off the first line it reads, there
must be none in the lines that are first in a source. -/
theorem compile_split {σ : Type} [Sink σ] (cfg : Config) (origin : Path)
    (front back : List Text) (sink : σ) (hlines : ∀ text ∈ front ++ back, '\n' ∉ text)
    (hfirst : ∀ text ∈ (front ++ back).head?, text.head? ≠ some Source.byteOrderMark)
    (hback : ∀ text ∈ back.head?, text.head? ≠ some Source.byteOrderMark) :
    let fresh : Session σ := { sink }
    let whole := compile cfg origin (.ofText (Text.unlines (front ++ back))) sink
    ((fresh.feedEach cfg front).andThen fun s =>
      s.run cfg origin (.ofText (Text.unlines back))) = whole ∧
    (fresh.feedEach cfg (front ++ back)).andThen (·.finish cfg) = whole := by
  intro fresh whole
  have hread : whole = (fresh.feedEach cfg (front ++ back)).andThen (·.finish cfg) := by
    show fresh.run cfg origin _ = _
    rw [Session.run_ofText_unlines hlines, Script.unmarkFirst_of_head? hfirst]
  refine ⟨?_, hread.symm⟩
  have hrest (s : Session σ) : s.run cfg origin (.ofText (Text.unlines back)) =
      (s.feedEach cfg back).andThen (·.finish cfg) := by
    rw [Session.run_ofText_unlines fun text h => hlines text (List.mem_append_right _ h),
      Script.unmarkFirst_of_head? hback]
  simp only [hrest]
  rw [hread, Session.feedEach_append, Outcome.andThen_assoc]

/-- Fed up to the middle of a scene, and read from a section without a name on; the end
of the script and a return are in the part that is read. -/
theorem compile_split_in_scene :
    let front := ["# Script", "## Day", "Bob: Hi."].map String.toList
    let back := ["## !", "Eve: Hi.\r", "# End", "## Day"].map String.toList
    let fresh : Session Memory := { sink := {} }
    (∀ text ∈ front ++ back, '\n' ∉ text) ∧
      (∀ text ∈ (front ++ back).head?, text.head? ≠ some Source.byteOrderMark) ∧
      (∀ text ∈ back.head?, text.head? ≠ some Source.byteOrderMark) ∧
      ((fresh.feedEach {} front).andThen fun s =>
        s.run {} unnamedOrigin (.ofText (Text.unlines back))).1 =
          .ok ⟨["Day".toList], ["Bob".toList], [⟨"Scenes/Day.cs".toList⟩,
            ⟨"Transition.cs".toList⟩, ⟨"Dialog.cs".toList⟩]⟩ := by
  intro front back fresh
  have hlines : ∀ text ∈ front ++ back, '\n' ∉ text := by decide
  have hfirst : ∀ text ∈ (front ++ back).head?, text.head? ≠ some Source.byteOrderMark := by
    decide
  have hback : ∀ text ∈ back.head?, text.head? ≠ some Source.byteOrderMark := by decide
  obtain ⟨hsplit, hfed⟩ := compile_split {} unnamedOrigin front back ({} : Memory) hlines hfirst
    hback
  refine ⟨hlines, hfirst, hback, ?_⟩
  rw [hsplit, ← hfed]
  rfl

end StoryScript
