/-
# `StoryScript.Proofs.Compilation.Repeats` — going on after a name that came before

A heading whose name came before fails, and a heading that makes no name does not.  To a
caller who goes on, that is the only difference between the two:

    ## Day                   ## Day
    Bob: Hi.                 Bob: Hi.
    ## Day      (fails)      ## !        (makes no name)
    Eve: Hi.                 Eve: Hi.
    ## Night                 ## Night

On both sides `Day` is closed and written with one line, Eve is not heard, and all that
comes later is the same (`repeats_are_idle`).  The sessions differ in their logs only.
Nothing but the log is told apart by `Session.Alike` together with the phase, so this
relation is what every line keeps, whether it is fed as it is or relieved.
-/
import StoryScript.Proofs.Compilation.Accounts
import StoryScript.Proofs.Compilation.DeadText

namespace StoryScript

/-! ## Sessions alike go on alike -/

namespace Session.Alike

variable {σ : Type} {s t u : Session σ}

theorem symm (h : s.Alike t) : t.Alike s :=
  ⟨h.draft.symm, h.scenes.symm, h.speakers.symm, h.files.symm, h.sink.symm⟩

theorem trans (h : s.Alike t) (h' : t.Alike u) : s.Alike u :=
  ⟨h.draft.trans h'.draft, h.scenes.trans h'.scenes, h.speakers.trans h'.speakers,
    h.files.trans h'.files, h.sink.trans h'.sink⟩

theorem note_left (s : Session σ) (e : Event) : (s.note e).Alike s := ⟨rfl, rfl, rfl, rfl, rfl⟩

theorem beginScene (h : s.Alike t) (cfg : Config) (heading : Text) :
    (s.beginScene cfg heading).Alike (t.beginScene cfg heading) := by
  obtain ⟨_, _, draft?, _, hbegin⟩ := exists_beginScene_eq cfg heading t.progress.scenes
  rw [hbegin s h.scenes, hbegin t rfl]
  exact ⟨rfl, congrArg draft?.or h.draft, rfl, h.speakers, h.files, h.sink⟩

theorem addStatement (h : s.Alike t) (st : Statement) :
    (s.addStatement st).Alike (t.addStatement st) := by
  cases hd : t.progress.draft with
  | none =>
      rw [addStatement_of_none hd, addStatement_of_none (h.draft.trans hd)]
      exact h
  | some d =>
      have hs := progress_addStatement (h.draft.trans hd) st
      have ht := progress_addStatement hd st
      refine ⟨?_, ?_, ?_, ?_, ?_⟩
      · rw [hs, ht]
      · rw [hs, ht]
        exact h.scenes
      · rw [hs, ht, h.speakers]
      · rw [hs, ht]
        exact h.files
      · rw [sink_addStatement, sink_addStatement]
        exact h.sink

variable [Sink σ]

theorem openScene (h : s.Alike t) (cfg : Config) (heading : Text) :
    (s.openScene cfg heading).Alike (t.openScene cfg heading) := by
  rw [openScene_eq_andThen, openScene_eq_andThen]
  refine ((h.note _).closeScene cfg).andThen ?_
  intro s₁ t₁ h₁
  exact h₁.beginScene cfg heading

theorem feed (h : s.Alike t) (hp : s.progress.phase = t.progress.phase) (cfg : Config)
    (text : Text) : (s.feed cfg text).Alike (t.feed cfg text) := by
  unfold Session.feed
  rw [hp]
  split
  · split
    · exact ⟨rfl, h.draft, h.scenes, h.speakers, h.files, h.sink⟩
    · exact ⟨rfl, h⟩
  · exact ⟨rfl, h.draft, h.scenes, h.speakers, h.files, h.sink⟩
  · exact h.openScene cfg _
  · exact ⟨rfl, h.addStatement _⟩
  · exact ⟨rfl, h⟩

end Session.Alike

/-! ## A heading that makes no name -/

/-- A heading that makes no name, whatever the settings. -/
def Script.idleHeading : Text := "## !".toList

/-- Whether a line has failed because its name came before. -/
def Outcome.isRepeat {σ : Type} (o : Outcome σ Unit) : Bool :=
  match o.1 with
  | .error (.duplicateScene _) => true
  | _ => false

theorem Outcome.exists_error_of_isRepeat {σ : Type} {o : Outcome σ Unit}
    (h : o.isRepeat = true) : ∃ name, o.1 = .error (.duplicateScene name) := by
  unfold isRepeat at h
  split at h
  · rename_i name hfailed
    exact ⟨name, hfailed⟩
  · cases h

/-- The result, but none to complain about if it is that the name came before. -/
def Outcome.pardoned {σ : Type} (o : Outcome σ Unit) : Except Failure Unit :=
  if o.isRepeat then .ok () else o.1

namespace Session

section Repeat

variable {σ : Type} {cfg : Config} {s : Session σ} {heading text : Text}

theorem alike_of_isRepeat_beginScene (h : (s.beginScene cfg heading).isRepeat = true) :
    (s.beginScene cfg heading).2.Alike s := by
  obtain ⟨name, hfailed⟩ := Outcome.exists_error_of_isRepeat h
  obtain ⟨-, -, hleft⟩ := beginScene_of_error hfailed
  rw [hleft]
  exact Alike.note_left s _

variable [Sink σ]

theorem isRepeat_closeScene (cfg : Config) (s : Session σ) :
    (s.closeScene cfg).isRepeat = false := by
  cases hd : s.progress.draft with
  | none =>
      rw [closeScene_of_none hd]
      rfl
  | some d =>
      rw [closeScene_of_some hd, write]
      split
      · rfl
      · rfl

/-- Opening a scene whose name came before closes the scene that is open and does no more. -/
theorem openScene_of_isRepeat (h : (s.openScene cfg heading).isRepeat = true) :
    (s.closeScene cfg).1 = .ok () ∧
      (s.openScene cfg heading).2.Alike (s.closeScene cfg).2 := by
  have hclosed := (Alike.note_left s (.sceneHeading heading)).closeScene cfg
  have hfile := isRepeat_closeScene cfg (s.note (.sceneHeading heading))
  rw [openScene_eq_andThen] at h ⊢
  generalize (s.note (.sceneHeading heading)).closeScene cfg = closed at h hclosed hfile ⊢
  obtain ⟨result, u⟩ := closed
  obtain ⟨hresult, hu⟩ := hclosed
  cases result with
  | error failure =>
      rw [Outcome.andThen, hfile] at h
      cases h
  | ok _ => exact ⟨hresult.symm, (alike_of_isRepeat_beginScene h).trans hu⟩

theorem exists_heading_of_isRepeat (h : (s.feed cfg text).isRepeat = true) :
    s.progress.phase = .inScript ∧ ∃ heading, Line.ofText text = .scene heading := by
  obtain ⟨name, hfailed⟩ := Outcome.exists_error_of_isRepeat h
  obtain ⟨hp, heading, hl, -⟩ := failsBy_feed hfailed
  exact ⟨hp, heading, hl⟩

theorem phase_feed_of_scene (hp : s.progress.phase = .inScript)
    (hl : Line.ofText text = .scene heading) :
    (s.feed cfg text).2.progress.phase = .inScript := by
  rw [feed_scene hp hl, phase_openScene, hp]

theorem openScene_of_nil (hname : Scene.name cfg.sceneToken heading = [])
    (hclose : (s.closeScene cfg).1 = .ok ()) :
    (s.openScene cfg heading).1 = .ok () ∧
      (s.openScene cfg heading).2.Alike (s.closeScene cfg).2 := by
  have hclosed := (Alike.note_left s (.sceneHeading heading)).closeScene cfg
  rw [openScene_eq_andThen]
  generalize (s.note (.sceneHeading heading)).closeScene cfg = closed at hclosed ⊢
  obtain ⟨result, u⟩ := closed
  obtain ⟨rfl, hu⟩ : result = _ ∧ u.Alike _ := hclosed
  rw [hclose, Outcome.andThen, beginScene_of_nil hname]
  exact ⟨rfl, (Alike.note_left u _).trans hu⟩

end Repeat

/-! ## Relieving a caller of repeated names -/

variable {σ : Type} [Sink σ] {cfg : Config} {s t : Session σ}

/-- What each line results in, with the session it leaves to the next; a caller goes on
when one has failed. -/
def outcomes (cfg : Config) (s : Session σ) : List Text → List (Outcome σ Unit)
  | [] => []
  | text :: rest => s.feed cfg text :: (s.feed cfg text).2.outcomes cfg rest

/-- The line, or the idle heading if it fails because its name came before. -/
def relieve (cfg : Config) (s : Session σ) (text : Text) : Text :=
  if (s.feed cfg text).isRepeat then Script.idleHeading else text

/-- The lines, with the idle heading for each that fails because its name came before. -/
def relieved (cfg : Config) (s : Session σ) : List Text → List Text
  | [] => []
  | text :: rest => s.relieve cfg text :: (s.feed cfg text).2.relieved cfg rest

/-- The same has been made of two scripts, and both have come equally far. -/
structure InStep (s t : Session σ) : Prop extends s.Alike t where
  phase : s.progress.phase = t.progress.phase

/-- **One line does the same relieved**, but does not fail for its name. -/
theorem InStep.feed_relieve (h : s.InStep t) (cfg : Config) (text : Text) :
    (t.feed cfg (s.relieve cfg text)).1 = (s.feed cfg text).pardoned ∧
      (s.feed cfg text).2.InStep (t.feed cfg (s.relieve cfg text)).2 := by
  cases hrepeat : (s.feed cfg text).isRepeat with
  | false =>
      obtain ⟨hresult, halike⟩ := h.toAlike.feed h.phase cfg text
      simp only [relieve, Outcome.pardoned, hrepeat, Bool.false_eq_true, if_false]
      refine ⟨hresult.symm, halike, ?_⟩
      rw [phase_feed, phase_feed, h.phase]
  | true =>
      obtain ⟨hs, heading, hl⟩ := exists_heading_of_isRepeat hrepeat
      have ht : t.progress.phase = .inScript := h.phase.symm.trans hs
      have hidle : Line.ofText Script.idleHeading = .scene ['!'] := rfl
      have hname : Scene.name cfg.sceneToken ['!'] = [] := rfl
      obtain ⟨hresult, hclosed⟩ := h.toAlike.closeScene cfg
      have hopen := hrepeat
      rw [feed_scene hs hl] at hopen
      obtain ⟨hclose, hleft⟩ := openScene_of_isRepeat hopen
      obtain ⟨hok, hleft'⟩ := openScene_of_nil hname (hresult ▸ hclose)
      simp only [relieve, Outcome.pardoned, hrepeat, if_true]
      refine ⟨?_, ?_, ?_⟩
      · rw [feed_scene ht hidle, hok]
      · rw [feed_scene hs hl, feed_scene ht hidle]
        exact (hleft.trans hclosed).trans hleft'.symm
      · rw [phase_feed_of_scene hs hl, phase_feed_of_scene ht hidle]

theorem InStep.feedOn_relieved (h : s.InStep t) (cfg : Config) (texts : List Text) :
    (s.feedOn cfg texts).InStep (t.feedOn cfg (s.relieved cfg texts)) := by
  induction texts generalizing s t with
  | nil => exact h
  | cons text rest ih => exact ih (h.feed_relieve cfg text).2

theorem InStep.finish (h : s.InStep t) (cfg : Config) :
    (s.finish cfg).Alike (t.finish cfg) := by
  by_cases hs : s.progress.phase = .searching
  · rw [finish_of_searching hs, finish_of_searching (h.phase.symm.trans hs)]
    exact ⟨rfl, h.toAlike⟩
  · exact h.toAlike.finish cfg hs (h.phase ▸ hs)

theorem InStep.outcomes_relieved {β : Type} (h : s.InStep t) (cfg : Config)
    {seen : Session σ → β} (hseen : ∀ s t, s.InStep t → seen s = seen t) (texts : List Text) :
    (t.outcomes cfg (s.relieved cfg texts)).map (fun o => (o.1, seen o.2)) =
      (s.outcomes cfg texts).map fun o => (o.pardoned, seen o.2) := by
  induction texts generalizing s t with
  | nil => rfl
  | cons text rest ih =>
      obtain ⟨hresult, hnext⟩ := h.feed_relieve cfg text
      rw [relieved, outcomes, outcomes, List.map_cons, List.map_cons, ih hnext, hresult,
        hseen _ _ hnext]

/-! ## The lines under a repeated name -/

theorem alike_feed_of_none (hd : s.progress.draft = none) {text : Text}
    (h : Script.isHeading (Line.ofText text) = false) : (s.feed cfg text).2.Alike s := by
  unfold feed
  split
  · split
    · exact ⟨rfl, rfl, rfl, rfl, rfl⟩
    · exact Alike.refl s
  · exact ⟨rfl, rfl, rfl, rfl, rfl⟩
  · rename_i hl
    rw [hl] at h
    cases h
  · rw [addStatement_of_none hd]
    exact Alike.refl s
  · exact Alike.refl s

theorem alike_feedOn_of_none (hd : s.progress.draft = none) {texts : List Text}
    (h : ∀ text ∈ texts, Script.isHeading (Line.ofText text) = false) :
    (s.feedOn cfg texts).Alike s := by
  induction texts generalizing s with
  | nil => exact Alike.refl s
  | cons text rest ih =>
      obtain ⟨htext, hrest⟩ := List.forall_mem_cons.mp h
      have hfed : (s.feed cfg text).2.Alike s := alike_feed_of_none hd htext
      exact (ih (hfed.draft.trans hd) hrest).trans hfed

theorem alike_closeScene_of_isRepeat {text : Text} {between : List Text}
    (h : (s.feed cfg text).isRepeat = true)
    (hbetween : ∀ text ∈ between, Script.isHeading (Line.ofText text) = false) :
    (s.feedOn cfg (text :: between)).Alike (s.closeScene cfg).2 := by
  obtain ⟨hp, heading, hl⟩ := exists_heading_of_isRepeat h
  rw [feed_scene hp hl] at h
  obtain ⟨-, hleft⟩ := openScene_of_isRepeat h
  rw [← feed_scene hp hl] at hleft
  have hd := hleft.draft.trans (draft_closeScene cfg s)
  exact (alike_feedOn_of_none hd hbetween).trans hleft

end Session

/-- **A repeated name is as good as none.**  Lines are fed to a fresh session, whatever
they are and whichever writes are refused, and the caller goes on after every failure and
finishes at last.  Then the lines that failed because their names came before may as well
have been headings without a name: each line has the same result but for these failures,
and after each line the script has come equally far and the same files have been tried.
The end comes to the same.

A repeated name closes the scene before it, and it begins none: up to the next heading no
scene is open, no speaker is heard and nothing is tried but the file of that scene. -/
theorem repeats_are_idle (cfg : Config) (plan : Nat → Path → Option IoFailure)
    (texts : List Text) :
    let fresh := Session.planned plan
    let relieved := fresh.relieved cfg texts
    let ended := (fresh.feedOn cfg texts).finish cfg
    let ended' := (fresh.feedOn cfg relieved).finish cfg
    (fresh.outcomes cfg relieved).map (fun o => (o.1, o.2.isDone, o.2.sink.attempts)) =
        (fresh.outcomes cfg texts).map (fun o => (o.pardoned, o.2.isDone, o.2.sink.attempts)) ∧
      ended'.1 = ended.1 ∧ ended'.2.sink.attempts = ended.2.sink.attempts ∧
      ∀ front text between,
        ((fresh.feedOn cfg front).feed cfg text).isRepeat = true →
        (∀ text ∈ between, Script.isHeading (Line.ofText text) = false) →
        let before := fresh.feedOn cfg front
        let later := fresh.feedOn cfg (front ++ text :: between)
        later.progress.draft = none ∧ later.progress.scenes = before.progress.scenes ∧
          later.progress.speakers = before.progress.speakers ∧
          later.sink.attempts = before.sink.attempts ++
            before.progress.draft.toList.map (Draft.file cfg) := by
  intro fresh relieved ended ended'
  have hstart : fresh.InStep fresh := ⟨Session.Alike.refl _, rfl⟩
  have hseen : ∀ s t : Session Planned, s.InStep t →
      (s.isDone, s.sink.attempts) = (t.isDone, t.sink.attempts) := by
    intro s t h
    rw [Session.isDone, Session.isDone, h.phase, h.sink]
  have hend : ended.Alike ended' := (hstart.feedOn_relieved cfg texts).finish cfg
  refine ⟨hstart.outcomes_relieved cfg hseen texts, hend.1.symm, ?_, ?_⟩
  · rw [hend.2.sink]
  · intro front text between hrepeat hbetween before later
    have hlater : later = before.feedOn cfg (text :: between) := Session.feedOn_append _ _
    have hleft : later.Alike (before.closeScene cfg).2 := by
      rw [hlater]
      exact Session.alike_closeScene_of_isRepeat hrepeat hbetween
    obtain ⟨files, hclosed⟩ := Session.exists_progress_closeScene cfg before
    refine ⟨?_, ?_, ?_, ?_⟩
    · rw [hleft.draft, hclosed]
    · rw [hleft.scenes, hclosed]
    · rw [hleft.speakers, hclosed]
    · rw [hleft.sink, Session.attempts_closeScene]

/-- The file of Dawn is refused, so Day has to be fed again; when it comes in brackets it
is there already, and Eve is not heard. -/
theorem repeats_are_idle_second_day :
    let plan (n : Nat) (path : Path) : Option IoFailure :=
      if n = 0 then some ⟨path, .other "disk full".toList⟩ else none
    let front : List Text :=
      ["# Script", "## Dawn", "## Day", "## Day", "Bob: Hi."].map String.toList
    let text : Text := "## [Day]".toList
    let between : List Text := ["Eve: Hi.", "---"].map String.toList
    let texts := front ++ text :: between
    (((Session.planned plan).feedOn {} front).feed {} text).isRepeat = true ∧
      (∀ text ∈ between, Script.isHeading (Line.ofText text) = false) ∧
      (Session.planned plan).relieved {} texts = front ++ "## !".toList :: between ∧
      ((Session.planned plan).feedOn {} texts).progress.draft = none ∧
      ((Session.planned plan).feedOn {} texts).progress.speakers.names = ["Bob".toList] ∧
      ((Session.planned plan).feedOn {} texts).sink.attempts.map (·.1) =
        [⟨"Scenes/Dawn.cs".toList⟩, ⟨"Scenes/Day.cs".toList⟩] := by
  intro plan front text between
  have hrepeat : (((Session.planned plan).feedOn {} front).feed {} text).isRepeat = true := by
    decide +kernel
  have hbetween : ∀ text ∈ between, Script.isHeading (Line.ofText text) = false := by decide
  have hrelieved : (Session.planned plan).relieved {} (front ++ text :: between) =
      front ++ "## !".toList :: between := by
    decide +kernel
  have hheard : ((Session.planned plan).feedOn {} front).progress.speakers.names =
      ["Bob".toList] := by
    decide +kernel
  have htried : (((Session.planned plan).feedOn {} front).sink.attempts ++
      ((Session.planned plan).feedOn {} front).progress.draft.toList.map (Draft.file {})).map
        (·.1) = [⟨"Scenes/Dawn.cs".toList⟩, ⟨"Scenes/Day.cs".toList⟩] := by
    decide +kernel
  obtain ⟨-, -, -, hunder⟩ := repeats_are_idle {} plan (front ++ text :: between)
  have hleft := hunder front text between hrepeat hbetween
  dsimp only at hleft ⊢
  obtain ⟨hd, -, hspeakers, hattempts⟩ := hleft
  rw [hspeakers, hattempts]
  exact ⟨hrepeat, hbetween, hrelieved, hd, hheard, htried⟩

end StoryScript
