/-
# `StoryScript.Proofs.Compilation.Lockstep` — two sinks side by side

A compilation learns nothing from its sink but whether a file was taken.  So two
compilations of one script that differ in their sinks do the same as long as both
sinks take every file, and when the first sink refuses one, its compilation ends with
that refusal while the other goes on by itself:

    first sink      takes     takes     refuses
    second sink     takes     takes     takes or refuses    ...
                      agree     agree     parted             parted

What the sinks have in common, before they part and afterwards, is up to the sinks; it
is given for one write (`Lockstep`) and carried from there to whole compilations
(`Lockstep.compile`).  After the parting only one of the two writes, so the second half
rests on what holds from write to write (`KeptByWrites`).
-/
import StoryScript.Proofs.Compilation.Writes

namespace StoryScript

open Session

/-! ## Agreeing and parting -/

/-- What two sinks have in common that get the same files. -/
structure Lockstep (σ τ : Type) [Sink σ] [Sink τ] where
  /-- Both have taken every file so far. -/
  agree : σ → τ → Prop
  /-- The first has refused a file; the second may have got others since. -/
  parted : IoFailure → σ → τ → Prop
  /-- The next file is taken by both, or refused by the first. -/
  write_of_agree : ∀ {a b}, agree a b → ∀ path code,
    (∃ a' b', Sink.write a path code = (.ok (), a') ∧ Sink.write b path code = (.ok (), b') ∧
      agree a' b') ∨
    ∃ failure a', Sink.write a path code = (.error failure, a') ∧
      parted failure a' (Sink.write b path code).2
  write_of_parted : ∀ {failure a b}, parted failure a b → ∀ path code,
    parted failure a (Sink.write b path code).2

/-- The session with another sink in place of its own. -/
def Session.withSink {σ τ : Type} (s : Session σ) (b : τ) : Session τ :=
  { progress := s.progress, sink := b, log := s.log }

namespace Lockstep

variable {σ τ : Type} [Sink σ] [Sink τ] {k : Lockstep σ τ}

/-- Two outcomes that differ in nothing but the sinks, or of which the first is the
refusal that parted them. -/
inductive Together (k : Lockstep σ τ) {α : Type} : Outcome σ α → Outcome τ α → Prop
  | same {result : Except Failure α} {s : Session σ} {b : τ} : k.agree s.sink b →
      Together k (result, s) (result, s.withSink b)
  | parted {failure : IoFailure} {s : Session σ} {o : Outcome τ α} :
      k.parted failure s.sink o.2.sink → Together k (.error (.io failure), s) o

theorem Together.of_agree {α : Type} {o : Outcome σ α} {b : τ} (h : k.agree o.2.sink b) :
    k.Together o (o.1, o.2.withSink b) :=
  .same h

theorem keptByWrites_parted (k : Lockstep σ τ) (failure : IoFailure) (a : σ) :
    KeptByWrites fun b _ => k.parted failure a b := by
  intro s path code h
  rw [Satisfies, sink_write]
  exact k.write_of_parted h path code

theorem Together.andThen {α : Type} {o : Outcome σ Unit} {o' : Outcome τ Unit}
    {next : Session σ → Outcome σ α} {next' : Session τ → Outcome τ α} (h : k.Together o o')
    (hnext : ∀ s b, k.agree s.sink b → k.Together (next s) (next' (s.withSink b)))
    (hparted : ∀ {P : τ → List Path → Prop}, KeptByWrites P → ∀ t, t.Satisfies P →
      (next' t).2.Satisfies P) :
    k.Together (o.andThen next) (o'.andThen next') := by
  cases h with
  | @same result s b hag =>
      cases result with
      | error failure => exact .same hag
      | ok _ => exact hnext s b hag
  | @parted failure s _ hpart =>
      have hkept := k.keptByWrites_parted failure s.sink
      have ho : o'.2.Satisfies fun b _ => k.parted failure s.sink b := hpart
      exact .parted (Outcome.satisfies_andThen ho (hparted hkept))

variable {s : Session σ} {b : τ} {cfg : Config}

theorem write (h : k.agree s.sink b) (path : Path) (code : Text) :
    k.Together (s.write path code) ((s.withSink b).write path code) := by
  rcases k.write_of_agree h path code with ⟨a', b', ha, hb, hag⟩ | ⟨failure, a', ha, hpart⟩
  · have hfirst : s.write path code =
        (.ok (), { s with sink := a', progress.files := s.progress.files ++ [path] }) := by
      simp only [Session.write, ha]
    have hsecond : (s.withSink b).write path code =
        (.ok (), { s with sink := a', progress.files := s.progress.files ++ [path] }.withSink b') := by
      simp only [Session.write, withSink, hb]
    rw [hfirst, hsecond]
    exact .same hag
  · have hfirst : s.write path code = (.error (.io failure), { s with sink := a' }) := by
      simp only [Session.write, ha]
    rw [hfirst]
    refine .parted ?_
    rw [sink_write]
    exact hpart

theorem closeScene (h : k.agree s.sink b) :
    k.Together (s.closeScene cfg) ((s.withSink b).closeScene cfg) := by
  cases hd : s.progress.draft with
  | none =>
      rw [closeScene_of_none hd, closeScene_of_none (s := s.withSink b) hd]
      exact .same h
  | some d =>
      rw [closeScene_of_some hd, closeScene_of_some (s := s.withSink b) hd]
      exact write (s := { s with progress.draft := none }) h _ _

omit [Sink σ] [Sink τ] in
theorem beginScene_withSink (cfg : Config) (heading : Text) (s : Session σ) (b : τ) :
    (s.withSink b).beginScene cfg heading =
      ((s.beginScene cfg heading).1, (s.beginScene cfg heading).2.withSink b) := by
  obtain ⟨_, _, _, _, hbegin⟩ := exists_beginScene_eq cfg heading s.progress.scenes
  rw [hbegin s rfl, hbegin (s.withSink b) rfl]
  rfl

omit [Sink σ] [Sink τ] in
theorem hear_withSink (speaker : Text) (s : Session σ) (b : τ) :
    (s.withSink b).hear speaker = (s.hear speaker).withSink b := by
  have hspeakers : (s.withSink b).progress.speakers = s.progress.speakers := rfl
  rw [hear, hear, hspeakers]
  rcases s.progress.speakers.insert speaker with ⟨_ | _, speakers⟩ <;> rfl

omit [Sink σ] [Sink τ] in
theorem addStatement_withSink (st : Statement) (s : Session σ) (b : τ) :
    (s.withSink b).addStatement st = (s.addStatement st).withSink b := by
  cases hd : s.progress.draft with
  | none => rw [addStatement_of_none hd, addStatement_of_none (s := s.withSink b) hd]
  | some d =>
      have hsecond : (s.withSink b).progress.draft = some d := hd
      simp only [addStatement, hd, hsecond]
      cases st with
      | say dialogue =>
          simp only [hear_withSink]
          rfl
      | pause => rfl
      | comment _ => rfl

theorem openScene (h : k.agree s.sink b) (heading : Text) :
    k.Together (s.openScene cfg heading) ((s.withSink b).openScene cfg heading) := by
  rw [openScene_eq_andThen, openScene_eq_andThen]
  refine (closeScene (s := s.note (.sceneHeading heading)) h).andThen ?_ ?_
  · intro t c hag
    rw [beginScene_withSink]
    refine .of_agree ?_
    rwa [sink_beginScene]
  · intro P _ t ht
    rwa [Satisfies, sink_beginScene, files_beginScene]

theorem feed (h : k.agree s.sink b) (text : Text) :
    k.Together (s.feed cfg text) ((s.withSink b).feed cfg text) := by
  cases hp : s.progress.phase with
  | searching =>
      cases hentry : Script.isEntry cfg (Line.ofText text) with
      | false =>
          rw [feed_of_searching hp hentry, feed_of_searching (s := s.withSink b) hp hentry]
          exact .same h
      | true =>
          obtain ⟨heading, hl⟩ := Script.exists_title_of_isTitle (Script.isTitle_of_isEntry hentry)
          rw [hl] at hentry
          rw [feed_entry hp hl hentry, feed_entry (s := s.withSink b) hp hl hentry]
          exact .same h
  | ended =>
      rw [feed_of_ended hp, feed_of_ended (s := s.withSink b) hp]
      exact .same h
  | inScript =>
      cases hl : Line.ofText text with
      | title heading =>
          rw [feed_title hp hl, feed_title (s := s.withSink b) hp hl]
          exact .same h
      | scene heading =>
          rw [feed_scene hp hl, feed_scene (s := s.withSink b) hp hl]
          exact openScene h heading
      | statement st =>
          rw [feed_statement hp hl, feed_statement (s := s.withSink b) hp hl,
            addStatement_withSink]
          refine .same ?_
          rwa [sink_addStatement]
      | blank =>
          rw [feed_blank hp hl, feed_blank (s := s.withSink b) hp hl]
          exact .same h

theorem feedAll (h : k.agree s.sink b) (origin : Path) (lines : List (Except IoCause Text)) :
    k.Together (s.feedAll cfg origin lines) ((s.withSink b).feedAll cfg origin lines) := by
  induction lines generalizing s b with
  | nil => exact .same h
  | cons line rest ih =>
      cases line with
      | error cause => exact .same h
      | ok text =>
          rw [feedAll_cons_eq_andThen, feedAll_cons_eq_andThen]
          refine (feed h text).andThen ?_ ?_
          · intro t c hag
            have hdone : (t.withSink c).isDone = t.isDone := rfl
            rw [hdone]
            split
            · exact .same hag
            · exact ih hag
          · intro P hP t ht
            split
            · exact ht
            · exact hP.feedAll cfg origin ht rest

theorem writeHelpers (h : k.agree s.sink b) :
    k.Together (s.writeHelpers cfg) ((s.withSink b).writeHelpers cfg) := by
  rw [writeHelpers_eq_andThen, writeHelpers_eq_andThen]
  refine (write (s := s.note (.writing cfg.transitionFile)) h _ _).andThen ?_ ?_
  · intro t c hag
    refine (write (s := t.note (.writing cfg.dialogFile)) hag _ _).andThen ?_ ?_
    · intro _ _ hag
      exact .same hag
    · intro _ _ _ ht
      exact ht
  · intro P hP t ht
    refine Outcome.satisfies_andThen ?_ fun _ h => h
    refine hP _ _ _ ?_
    exact ht

theorem finish (h : k.agree s.sink b) :
    k.Together (s.finish cfg) ((s.withSink b).finish cfg) := by
  by_cases hp : s.progress.phase = .searching
  · rw [finish_of_searching hp, finish_of_searching (s := s.withSink b) hp]
    exact .same h
  · rw [finish_eq_andThen hp, finish_eq_andThen (s := s.withSink b) hp]
    refine (closeScene h).andThen ?_ ?_
    · intro t c hag
      exact writeHelpers hag
    · intro P hP t ht
      exact hP.writeHelpers cfg ht

/-- **Compilations into two sinks go together until the first sink refuses a file.** -/
theorem compile (k : Lockstep σ τ) (cfg : Config) (origin : Path) (source : Source) {a : σ}
    {b : τ} (h : k.agree a b) :
    k.Together (StoryScript.compile cfg origin source a)
      (StoryScript.compile cfg origin source b) := by
  rw [StoryScript.compile, StoryScript.compile, run, run, finishAfter_eq_andThen,
    finishAfter_eq_andThen]
  refine (feedAll (s := { sink := a }) h origin _).andThen ?_ ?_
  · intro t c hag
    exact finish hag
  · intro P hP t ht
    exact hP.finish cfg ht

end Lockstep

end StoryScript
