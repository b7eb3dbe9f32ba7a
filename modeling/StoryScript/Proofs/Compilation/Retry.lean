/-
# `StoryScript.Proofs.Compilation.Retry` — what a failed line leaves behind

No line fails but a heading of the script, and that in two ways only:

    ## Day
    ## Noon     closes Day and is refused its file: Day is lost, and Noon is not begun
    ## Noon     closes nothing, so it cannot be refused again: Noon is begun
    ## Day      closes Noon and finds its name taken: Noon is written, and nothing is begun

A refusal comes before the heading's own name is looked at, and a name is looked at when
the scene before it has been closed for good.  So what is left is each time the session as
it was with no scene open, and in the second case with the file of that scene listed
(`failed_line`).  A caller who feeds a refused heading again meets a session that has
nothing to write, and the heading does there what it would have done with no scene open.
-/
import StoryScript.Proofs.Compilation.Accounts

namespace StoryScript

theorem Planned.plan_of_write_eq_error {p : Planned} {path : Path} {code : Text}
    {failure : IoFailure} {sink : Planned} (h : Sink.write p path code = (.error failure, sink)) :
    p.plan p.attempts.length path = some failure := by
  cases hplan : p.plan p.attempts.length path with
  | none =>
      rw [write_of_none hplan] at h
      cases h
  | some other =>
      rw [write_of_some hplan] at h
      cases h
      rfl

namespace Session

/-! ## A heading with no scene open -/

section

variable {σ : Type} {cfg : Config} {s t : Session σ} {heading : Text}

theorem beginScene_congr (h : s.progress = t.progress) (cfg : Config) (heading : Text) :
    (s.beginScene cfg heading).1 = (t.beginScene cfg heading).1 ∧
      (s.beginScene cfg heading).2.progress = (t.beginScene cfg heading).2.progress ∧
      ∃ event, (s.beginScene cfg heading).2.log = s.log ++ [event] ∧
        (t.beginScene cfg heading).2.log = t.log ++ [event] := by
  obtain ⟨_, scenes, draft?, event, hbegin⟩ :=
    exists_beginScene_eq cfg heading t.progress.scenes
  rw [hbegin s (congrArg Progress.scenes h), hbegin t rfl]
  refine ⟨rfl, ?_, event, rfl, rfl⟩
  exact congrArg (fun p : Progress => { p with scenes, draft := draft?.or p.draft }) h

variable [Sink σ]

theorem openScene_of_none (h : s.progress.draft = none) :
    s.openScene cfg heading = (s.note (.sceneHeading heading)).beginScene cfg heading := by
  rw [openScene_eq_andThen, closeScene_of_none (s := s.note (.sceneHeading heading)) h]
  rfl

/-- Where no scene is open, what a heading does depends on what has been made of the script so
far, and does not reach the sink. -/
theorem openScene_congr_of_none (h : s.progress = t.progress) (hd : t.progress.draft = none)
    (cfg : Config) (heading : Text) :
    (s.openScene cfg heading).1 = (t.openScene cfg heading).1 ∧
      (s.openScene cfg heading).2.progress = (t.openScene cfg heading).2.progress ∧
      (s.openScene cfg heading).2.sink = s.sink ∧ (t.openScene cfg heading).2.sink = t.sink ∧
      ∃ events, (s.openScene cfg heading).2.log = s.log ++ events ∧
        (t.openScene cfg heading).2.log = t.log ++ events := by
  rw [openScene_of_none (h ▸ hd), openScene_of_none hd, sink_beginScene, sink_beginScene]
  obtain ⟨hresult, hprogress, event, hs, ht⟩ :=
    beginScene_congr (s := s.note (.sceneHeading heading)) (t := t.note (.sceneHeading heading))
      h cfg heading
  refine ⟨hresult, hprogress, rfl, rfl, [.sceneHeading heading, event], ?_, ?_⟩
  · rw [hs, note, List.append_assoc, List.singleton_append]
  · rw [ht, note, List.append_assoc, List.singleton_append]

end

/-! ## What is tried -/

theorem attempts_openScene (cfg : Config) (heading : Text) (s : Session Planned) :
    (s.openScene cfg heading).2.sink.attempts =
      s.sink.attempts ++ s.progress.draft.toList.map (Draft.file cfg) := by
  have hclosed := attempts_closeScene cfg (s.note (.sceneHeading heading))
  rcases openScene_cases cfg heading s with ⟨failure, hopen⟩ | hopen
  · rw [hopen]
    exact hclosed
  · rw [hopen, sink_beginScene]
    exact hclosed

/-- A line tries the file of the open scene, or none. -/
theorem attempts_feed_cases (cfg : Config) (s : Session Planned) (text : Text) :
    (s.feed cfg text).2.sink.attempts = s.sink.attempts ∨
      ∃ d, s.progress.draft = some d ∧
        (s.feed cfg text).2.sink.attempts = s.sink.attempts ++ [d.file cfg] := by
  unfold feed
  split
  · split
    · exact Or.inl rfl
    · exact Or.inl rfl
  · exact Or.inl rfl
  · rw [attempts_openScene]
    cases hd : s.progress.draft with
    | none => exact Or.inl (List.append_nil _)
    | some d => exact Or.inr ⟨d, rfl, rfl⟩
  · rw [sink_addStatement]
    exact Or.inl rfl
  · exact Or.inl rfl

theorem plan_feedOn (cfg : Config) (plan : Nat → Path → Option IoFailure) (texts : List Text) :
    ((planned plan).feedOn cfg texts).sink.plan = plan :=
  (feedOn_keeps (P := Satisfies (Planned.Listed plan))
    (fun _ text h => (Planned.keptByWrites_listed plan).feed cfg text h) ⟨rfl, rfl, rfl⟩
    texts).planned

end Session

/-- **What a failed line leaves behind.**  Lines are fed to a fresh session, whatever they
are and whichever writes are refused, and the caller goes on after every failure; then one
more is fed.

If the file of the open scene is refused, the scene is gone, and nothing else has changed:
the heading's own name is not taken.  Fed again, the line does what it would have done had
no scene been open, and tries nothing.  If the name came before, the scene has been closed
and its file listed.  No other line fails, and no line tries more than the one file. -/
theorem failed_line (cfg : Config) (plan : Nat → Path → Option IoFailure) (texts : List Text)
    (text : Text) :
    let s := (Session.planned plan).feedOn cfg texts
    let fed := s.feed cfg text
    let unopened : Session Planned := { s with progress.draft := none }
    (∀ failure, fed.1 = .error (.io failure) →
      (∃ d, s.progress.draft = some d ∧
        plan s.sink.attempts.length (cfg.scenePath d.name) = some failure) ∧
      fed.2.progress = unopened.progress ∧
      let again := fed.2.feed cfg text
      let anew := unopened.feed cfg text
      again.1 = anew.1 ∧ again.2.progress = anew.2.progress ∧
        again.2.sink = fed.2.sink ∧ anew.2.sink = unopened.sink ∧
        ∃ events, again.2.log = fed.2.log ++ events ∧ anew.2.log = unopened.log ++ events) ∧
    (∀ name, fed.1 = .error (.duplicateScene name) →
      name ∈ s.progress.scenes ∧ fed.2.progress = { s.progress with
        draft := none
        files := s.progress.files ++ s.progress.draft.toList.map (cfg.scenePath ·.name) }) ∧
    (∀ f, fed.1 = .error f → s.progress.phase = .inScript ∧
      ∃ heading, Line.ofText text = .scene heading ∧
        ((∃ failure, f = .io failure) ∨
          f = .duplicateScene (Scene.name cfg.sceneToken heading))) ∧
    (fed.2.sink.attempts = s.sink.attempts ∨ ∃ d, s.progress.draft = some d ∧
      fed.2.sink.attempts = s.sink.attempts ++ [d.file cfg]) := by
  intro s fed unopened
  have hplan : s.sink.plan = plan := Session.plan_feedOn cfg plan texts
  refine ⟨?_, ?_, ?_, Session.attempts_feed_cases cfg s text⟩
  · intro failure hfailed
    obtain ⟨hp, heading, hl, hfails⟩ := Session.failsBy_feed hfailed
    cases hfails with
    | @refused d _ sink hd hsink hleft =>
        have hrefused := Planned.plan_of_write_eq_error hsink
        rw [hplan] at hrefused
        have hprogress : fed.2.progress = unopened.progress := by
          show (s.feed cfg text).2.progress = _
          rw [hleft]
          rfl
        refine ⟨⟨d, hd, hrefused⟩, hprogress, ?_⟩
        intro again anew
        have hagain : again = fed.2.openScene cfg heading :=
          Session.feed_scene ((congrArg Progress.phase hprogress).trans hp) hl
        have hanew : anew = unopened.openScene cfg heading := Session.feed_scene hp hl
        rw [hagain, hanew]
        exact Session.openScene_congr_of_none hprogress rfl cfg heading
  · intro name hfailed
    obtain ⟨-, heading, -, hfails⟩ := Session.failsBy_feed hfailed
    cases hfails with
    | repeated hmem hleft => exact ⟨hmem, hleft⟩
  · intro f hfailed
    obtain ⟨hp, heading, hl, hfails⟩ := Session.failsBy_feed hfailed
    refine ⟨hp, heading, hl, ?_⟩
    cases hfails with
    | refused => exact Or.inl ⟨_, rfl⟩
    | repeated => exact Or.inr rfl

/-- The file of Day is refused when Noon is to begin, which it does when it is fed again;
then Day comes again, and finds that Noon can be closed and its own name cannot be had. -/
theorem failed_line_noon_again :
    let plan (n : Nat) (path : Path) : Option IoFailure :=
      if n = 0 then some ⟨path, .other "disk full".toList⟩ else none
    let refused : IoFailure := ⟨⟨"Scenes/Day.cs".toList⟩, .other "disk full".toList⟩
    let fed (texts : List Text) := (Session.planned plan).feedOn {} texts
    let front : List Text := ["# Script", "## Day", "Bob: Hi."].map String.toList
    let noon : Text := "## Noon".toList
    let day : Text := "## Day".toList
    ((fed front).feed {} noon).1 = .error (.io refused) ∧
      ((fed front).feed {} noon).2.progress = { (fed front).progress with draft := none } ∧
      (((fed front).feed {} noon).2.feed {} noon).1 = .ok () ∧
      (((fed front).feed {} noon).2.feed {} noon).2.sink = ((fed front).feed {} noon).2.sink ∧
      ((fed (front ++ [noon, noon])).feed {} day).1 = .error (.duplicateScene "Day".toList) ∧
      ((fed (front ++ [noon, noon])).feed {} day).2.progress.scenes.names =
        ["Day".toList, "Noon".toList] ∧
      ((fed (front ++ [noon, noon])).feed {} day).2.progress.files =
        [⟨"Scenes/Noon.cs".toList⟩] := by
  intro plan refused fed front noon day
  have hrefused : ((fed front).feed {} noon).1 = .error (.io refused) := by decide +kernel
  have hrepeated : ((fed (front ++ [noon, noon])).feed {} day).1 =
      .error (.duplicateScene "Day".toList) := by decide +kernel
  have hanew : (({ fed front with progress.draft := none } : Session Planned).feed {} noon).1 =
      .ok () := by decide +kernel
  have hscenes : (fed (front ++ [noon, noon])).progress.scenes.names =
      ["Day".toList, "Noon".toList] := by decide +kernel
  have hfiles : (fed (front ++ [noon, noon])).progress.files ++
      (fed (front ++ [noon, noon])).progress.draft.toList.map (Config.scenePath {} ·.name) =
        [⟨"Scenes/Noon.cs".toList⟩] := by decide +kernel
  obtain ⟨hnoon, -⟩ := failed_line {} plan front noon
  obtain ⟨-, hprogress, hagain, -, hsink, -⟩ := hnoon refused hrefused
  obtain ⟨-, hday, -⟩ := failed_line {} plan (front ++ [noon, noon]) day
  obtain ⟨-, hclosed⟩ := hday _ hrepeated
  refine ⟨hrefused, hprogress, hagain.trans hanew, hsink, hrepeated, ?_, ?_⟩
  · rw [hclosed]
    exact hscenes
  · rw [hclosed]
    exact hfiles

end StoryScript
