/-
# `StoryScript.Proofs.Compilation.Unreadable` — a line that cannot be read

A line may be no text at all, or the reader may break off in the middle of it.  That is an
error only for a compilation that comes to the line, and then the first thing to happen
counts:

    a line before it fails           that failure
    a title before it ends the script    the end, as if nothing followed
    neither                          the line is blamed on the source

In the last case nothing is finished: what is written are the scenes that another heading
has closed by then, and neither the open one nor the helpers (`compile_unreadable`).

A session that is fed knows by itself when the script has ended.  A session that reads
notices it behind a line, so one that is done already takes one more line from its reader
all the same.  The line has no effect if it can be read, and is an error if it cannot
(`run_of_isDone`, `run_of_isDone_unreadable`).
-/
import StoryScript.Proofs.Compilation.Feeding
import StoryScript.Proofs.Compilation.Lockstep
import StoryScript.Proofs.Compilation.Whole

namespace StoryScript

open Session

/-! ## What a sink has recorded -/

/-- The sink has a record of the files that it has taken, in their order. -/
def Sink.Records {σ : Type} [Sink σ] (record : σ → List (Path × Text)) : Prop :=
  ∀ a path code a', Sink.write a path code = (.ok (), a') →
    record a' = record a ++ [(path, code)]

theorem Memory.records_files : Sink.Records Memory.files := by
  intro m path code m' h
  cases h
  rfl

/-- A sink with a record goes together with the memory, until it refuses a file. -/
def Lockstep.recording {σ : Type} [Sink σ] {record : σ → List (Path × Text)}
    (h : Sink.Records record) (a : σ) : Lockstep σ Memory where
  agree b m := record b = record a ++ m.files
  parted _ _ _ := True
  write_of_agree := by
    intro b m hagree path code
    rcases hwrite : Sink.write b path code with ⟨failure | _, b'⟩
    · exact Or.inr ⟨failure, b', rfl, trivial⟩
    · refine Or.inl ⟨b', ⟨m.files ++ [(path, code)]⟩, rfl, rfl, ?_⟩
      rw [h b path code b' hwrite, hagree, List.append_assoc]
  write_of_parted := fun _ _ _ => trivial

namespace Session

section

variable {cfg : Config} {texts : List Text}

/-- Lines that are fed without failure leave the sections written that a heading has
closed. -/
theorem files_feedEach_of_ok {m : Memory} {s : Session Memory}
    (h : ({ sink := m } : Session Memory).feedEach cfg texts = (.ok (), s)) :
    s.sink.files = m.files ++ (Script.closedSections cfg
      ((Script.body? cfg (texts.map Line.ofText)).getD [])).map (·.file cfg) := by
  rw [← feedAll_map_ok unnamedOrigin] at h
  cases hbody : Script.body? cfg (texts.map Line.ofText) with
  | none =>
      rw [feedAll_of_no_entry unnamedOrigin (Script.body?_eq_none_iff.mp hbody)] at h
      cases h
      exact (List.append_nil _).symm
  | some body =>
      by_cases hnames : (Script.sceneNames cfg body).Nodup
      · obtain ⟨s', hfeed, -, htaken⟩ :=
          exists_hasTaken_of_nodup (m := m) unnamedOrigin hbody hnames
        rw [h] at hfeed
        cases hfeed
        exact htaken.sink
      · obtain ⟨j, name, hrepeat⟩ := Script.exists_firstRepeat_of_not_nodup hnames
        obtain ⟨s', hfeed, -⟩ :=
          exists_feedAll_of_firstRepeat (m := m) unnamedOrigin hbody hrepeat
        rw [h] at hfeed
        cases hfeed

theorem record_feedEach_of_ok {σ : Type} [Sink σ] {record : σ → List (Path × Text)}
    (hrecord : Sink.Records record) {a : σ} {s : Session σ}
    (h : ({ sink := a } : Session σ).feedEach cfg texts = (.ok (), s)) :
    record s.sink = record a ++ (Script.closedSections cfg
      ((Script.body? cfg (texts.map Line.ofText)).getD [])).map (·.file cfg) := by
  have htogether : (Lockstep.recording hrecord a).Together
      (({ sink := a } : Session σ).feedAll cfg unnamedOrigin (texts.map .ok))
      (({ sink := {} } : Session Memory).feedAll cfg unnamedOrigin (texts.map .ok)) :=
    Lockstep.feedAll (List.append_nil _).symm unnamedOrigin _
  rw [feedAll_map_ok, feedAll_map_ok, h] at htogether
  generalize hmemory : ({ sink := {} } : Session Memory).feedEach cfg texts = fed at htogether
  cases htogether with
  | same hagree =>
      have hfiles := files_feedEach_of_ok (m := {}) hmemory
      rw [hagree]
      exact congrArg _ hfiles

end

/-! ## Reading up to the line -/

variable {σ : Type} [Sink σ] {cfg : Config} {s : Session σ}

theorem feedAll_of_isDone (h : s.isDone = true) (origin : Path) (text : Text)
    (rest : List (Except IoCause Text)) :
    s.feedAll cfg origin (.ok text :: rest) = (.ok (), s) :=
  feedAll_cons_of_done (feed_of_ended (phase_of_isDone h) text) h

/-- Of lines with one among them that cannot be read, those in front of it are taken in, and it
is an error unless they end the script. -/
theorem feedAll_unreadable (h : s.isDone = false) (origin : Path) (texts : List Text)
    (cause : IoCause) (rest : List (Except IoCause Text)) :
    s.feedAll cfg origin (texts.map .ok ++ .error cause :: rest) =
      (s.feedEach cfg texts).andThen fun s =>
        if s.isDone then (.ok (), s) else (.error (.io ⟨origin, cause⟩), s) := by
  induction texts generalizing s with
  | nil =>
      simp only [feedEach, Outcome.andThen, h, Bool.false_eq_true, if_false]
      rfl
  | cons text more ih =>
      rw [List.map_cons, List.cons_append, feedAll_cons_eq_andThen, feedEach,
        Outcome.andThen_assoc]
      refine Outcome.andThen_congr fun t _ => ?_
      cases hdone : t.isDone with
      | true =>
          rw [feedEach_of_ended (phase_of_isDone hdone)]
          simp only [Outcome.andThen, hdone, if_true]
      | false => simpa only [Bool.false_eq_true, if_false] using ih hdone

end Session

theorem Script.unmarked_map_ok_append_error (texts : List Text) (cause : IoCause)
    (rest : List (Except IoCause Text)) :
    Source.unmarked (texts.map .ok ++ .error cause :: rest) =
      (unmarkFirst texts).map .ok ++ .error cause :: rest := by
  cases texts with
  | nil => rfl
  | cons _ _ => rfl

/-! ## An unreadable line of a script -/

/-- **What a line that cannot be read does to a compilation.**  The line is the first of its
kind, and the lines before it are fed to a session as they would be read, without marks in
front of the first.

If one of them fails, that is the failure, whatever the session has done by then.  If one
of them ends the script, the compilation ends there, and what follows does not matter.
Otherwise the line is blamed on the source, be there an entry or not: of the lines before
it, those sections are written which another heading has closed, and no other file is. -/
theorem compile_unreadable {σ : Type} [Sink σ] (cfg : Config) (origin : Path)
    (source : Source) (sink : σ) {texts : List Text} {cause : IoCause}
    {rest : List (Except IoCause Text)}
    (hlines : source.lines = texts.map .ok ++ .error cause :: rest) :
    let before := Script.unmarkFirst texts
    let fed := ({ sink } : Session σ).feedEach cfg before
    let whole := compile cfg origin source sink
    (∀ failure, fed.1 = .error failure → whole = (.error failure, fed.2)) ∧
    (fed.1 = .ok () → fed.2.isDone = true → whole = fed.2.finish cfg) ∧
    (fed.1 = .ok () → fed.2.isDone = false →
      whole = (.error (.io ⟨origin, cause⟩), fed.2) ∧
        ∀ record, Sink.Records record → record whole.2.sink = record sink ++
          (Script.closedSections cfg
            ((Script.body? cfg (before.map Line.ofText)).getD [])).map (·.file cfg)) := by
  intro before fed whole
  have hwhole : whole = (fed.andThen fun s =>
      if s.isDone then (.ok (), s) else (.error (.io ⟨origin, cause⟩), s)).andThen
        (·.finish cfg) := by
    show ({ sink } : Session σ).run cfg origin source = _
    rw [Session.run, hlines, Script.unmarked_map_ok_append_error,
      Session.feedAll_unreadable rfl, Session.finishAfter_eq_andThen]
  refine ⟨?_, ?_, ?_⟩
  · intro failure hfailed
    have hfed : fed = (.error failure, fed.2) := Prod.ext hfailed rfl
    rw [hwhole, hfed]
    rfl
  · intro hok hdone
    have hfed : fed = (.ok (), fed.2) := Prod.ext hok rfl
    rw [hwhole, hfed]
    simp only [Outcome.andThen, hdone, if_true]
  · intro hok hdone
    have hfed : fed = (.ok (), fed.2) := Prod.ext hok rfl
    have hblamed : whole = (.error (.io ⟨origin, cause⟩), fed.2) := by
      rw [hwhole, hfed]
      simp only [Outcome.andThen, hdone, Bool.false_eq_true, if_false]
    refine ⟨hblamed, fun record hrecord => ?_⟩
    rw [hblamed]
    exact Session.record_feedEach_of_ok hrecord hfed

/-- The reader comes upon a byte that begins no character while a scene is open, so the
scene before it is all that is written. -/
theorem compile_unreadable_in_scene :
    let texts := ["# Script", "## Day", "Bob: Hi.", "## Night", "---"].map String.toList
    let source : Source := ⟨(Text.unlines texts).encode ++ [0xFF, 0x0A, 0x23], none⟩
    let whole := compile {} unnamedOrigin source ({} : Memory)
    source.lines = texts.map .ok ++ .error .invalidUtf8 :: [.ok ['#']] ∧
      whole.1 = .error (.io ⟨unnamedOrigin, .invalidUtf8⟩) ∧
      whole.2.sink.files = [(⟨"Scenes/Day.cs".toList⟩,
        Code.sceneClass "Day".toList [.say ⟨"Bob".toList, "Hi.".toList⟩])] := by
  intro texts source whole
  have hlines : source.lines = texts.map .ok ++ .error .invalidUtf8 :: [.ok ['#']] := by
    rw [Source.lines_encode_unlines_append (by decide)]
    rfl
  obtain ⟨-, -, hblamed⟩ := compile_unreadable {} unnamedOrigin source ({} : Memory) hlines
  obtain ⟨hwhole, hrecord⟩ := hblamed rfl rfl
  refine ⟨hlines, congrArg Prod.fst hwhole, ?_⟩
  rw [hrecord Memory.files Memory.records_files]
  rfl

/-! ## An unreadable line behind the script -/

/-- **A session that is done takes one more line from its reader.**  If it cannot be read,
that is an error and nothing is written; otherwise, and if there is none, the session is
finished as it stands, and what the reader has besides is not looked at. -/
theorem run_of_isDone {σ : Type} [Sink σ] {cfg : Config} {s : Session σ}
    (h : s.isDone = true) (origin : Path) (source : Source) :
    (∀ cause, source.lines.head? = some (.error cause) →
      s.run cfg origin source = (.error (.io ⟨origin, cause⟩), s)) ∧
    ((∀ cause, source.lines.head? ≠ some (.error cause)) →
      s.run cfg origin source = s.finish cfg) := by
  cases hlines : source.lines with
  | nil =>
      refine ⟨?_, ?_⟩
      · intro cause hcause
        cases hcause
      · intro _
        rw [Session.run, hlines]
        rfl
  | cons line rest =>
      cases line with
      | error cause =>
          refine ⟨?_, ?_⟩
          · intro cause' hcause
            cases hcause
            rw [Session.run, hlines]
            rfl
          · intro hread
            exact absurd rfl (hread cause)
      | ok text =>
          refine ⟨?_, ?_⟩
          · intro cause hcause
            cases hcause
          · intro _
            rw [Session.run, hlines, Source.unmarked, Session.feedAll_of_isDone h]
            rfl

/-- A session that is done, with a reader that breaks off, in its first line and behind
it. -/
theorem run_of_isDone_broken_reader :
    let done := ({ sink := {} } : Session Memory).feedOn {} (["# Script", "# End"].map String.toList)
    let broken (text : String) : Source :=
      ⟨Text.encode text.toList, some (.other "broken pipe".toList)⟩
    done.isDone = true ∧
      (done.run {} unnamedOrigin (broken "## Day")).1 =
        .error (.io ⟨unnamedOrigin, .other "broken pipe".toList⟩) ∧
      (done.run {} unnamedOrigin (broken "## Day\nBob: Hi.")).1 =
        .ok ⟨[], [], [⟨"Transition.cs".toList⟩, ⟨"Dialog.cs".toList⟩]⟩ := by
  intro done broken
  have hdone : done.isDone = true := rfl
  obtain ⟨hfirst, -⟩ := @run_of_isDone Memory _ {} done hdone unnamedOrigin (broken "## Day")
  obtain ⟨-, hbehind⟩ :=
    @run_of_isDone Memory _ {} done hdone unnamedOrigin (broken "## Day\nBob: Hi.")
  refine ⟨hdone, ?_, ?_⟩
  · rw [hfirst _ rfl]
  · have hread : ∀ cause, (broken "## Day\nBob: Hi.").lines.head? ≠ some (.error cause) := by
      intro cause hcause
      cases hcause
    rw [hbehind hread]
    rfl

/-- A session that is done could be finished, and a run of it fails: the first line of its reader
cannot be read. -/
theorem run_of_isDone_unreadable :
    let done := ({ sink := {} } : Session Memory).feedOn {} (["# Script", "# end"].map String.toList)
    let reader : Source := ⟨[0xFF], none⟩
    done.isDone = true ∧
      (done.run {} unnamedOrigin reader).1 = .error (.io ⟨unnamedOrigin, .invalidUtf8⟩) ∧
      (done.finish {}).1 = .ok ⟨[], [], [⟨"Transition.cs".toList⟩, ⟨"Dialog.cs".toList⟩]⟩ :=
  ⟨rfl, rfl, rfl⟩

end StoryScript
