/-
# `StoryScript.Proofs.Compilation.Step` — what each action of a compilation does

One lemma for each action and each case of it, for any sink.  Everything that is said
about whole compilations is made of these, and only these look into the actions:

    feed           by phase and meaning of the line
    beginScene     no name, a name that has come before, a new name
    addStatement   no scene open, a scene open
    feedAll        the first line goes on, ends the script, or fails

Larger actions are smaller ones in a row, of which each is done if those before it have
not failed (`Outcome.andThen`), and each keeps what it has no business with.
-/
import StoryScript.Proofs.Outline

namespace StoryScript

/-- An action, and if it does not fail another one on the session it leaves. -/
def Outcome.andThen {σ α : Type} (o : Outcome σ Unit) (next : Session σ → Outcome σ α) :
    Outcome σ α :=
  match o with
  | (.ok (), s) => next s
  | (.error failure, s) => (.error failure, s)

theorem Outcome.andThen_assoc {σ α : Type} (o : Outcome σ Unit)
    (next : Session σ → Outcome σ Unit) (last : Session σ → Outcome σ α) :
    (o.andThen next).andThen last = o.andThen fun s => (next s).andThen last := by
  rcases o with ⟨_ | _, s⟩
  · rfl
  · rfl

theorem Outcome.andThen_congr {σ α : Type} {o : Outcome σ Unit}
    {next next' : Session σ → Outcome σ α} (h : ∀ s, o = (.ok (), s) → next s = next' s) :
    o.andThen next = o.andThen next' := by
  rcases o with ⟨_ | _, s⟩
  · rfl
  · exact h s rfl

theorem Outcome.andThen_cases {σ α : Type} (o : Outcome σ Unit)
    (next : Session σ → Outcome σ α) :
    (∃ failure, o.andThen next = (.error failure, o.2)) ∨ o.andThen next = next o.2 := by
  rcases o with ⟨failure | _, s⟩
  · exact Or.inl ⟨failure, rfl⟩
  · exact Or.inr rfl

theorem Outcome.andThen_of_error {σ α : Type} {o : Outcome σ Unit}
    {next : Session σ → Outcome σ α} {f : Failure} (h : (o.andThen next).1 = .error f) :
    (o.1 = .error f ∧ o.andThen next = (.error f, o.2)) ∨
      (o.1 = .ok () ∧ o.andThen next = next o.2) := by
  rcases o with ⟨failure | _, s⟩
  · obtain rfl : failure = f := Except.error.inj h
    exact Or.inl ⟨rfl, rfl⟩
  · exact Or.inr ⟨rfl, rfl⟩

/-- How far the script has come with one more line. -/
def Phase.next (cfg : Config) : Phase → Line → Phase
  | .searching, line => if Script.isEntry cfg line then .inScript else .searching
  | .inScript, line => if Script.isTitle line then .ended else .inScript
  | .ended, _ => .ended

/-- What is noted of a heading apart from the heading itself. -/
def Event.ofHeading (cfg : Config) (heading : Text) : Event :=
  if Scene.name cfg.sceneToken heading = [] then .sceneSkipped heading
  else .sceneNamed (Scene.name cfg.sceneToken heading)

namespace Session

/-! ## Beginning a scene -/

section Begin

variable {σ : Type} {cfg : Config} {heading : Text} {s : Session σ}

theorem beginScene_of_nil (h : Scene.name cfg.sceneToken heading = []) :
    s.beginScene cfg heading = (.ok (), s.note (.sceneSkipped heading)) := by
  rw [beginScene, h]

theorem beginScene_of_mem (hne : Scene.name cfg.sceneToken heading ≠ [])
    (h : Scene.name cfg.sceneToken heading ∈ s.progress.scenes) :
    s.beginScene cfg heading =
      (.error (.duplicateScene (Scene.name cfg.sceneToken heading)),
        s.note (.sceneNamed (Scene.name cfg.sceneToken heading))) := by
  unfold beginScene
  split
  · rename_i hnil
    exact absurd hnil hne
  · rw [Roster.register, Roster.offer_of_mem h]
    rfl

theorem beginScene_of_enter {scenes : Roster} (hne : Scene.name cfg.sceneToken heading ≠ [])
    (h : s.progress.scenes.enter? (Scene.name cfg.sceneToken heading) = some scenes) :
    s.beginScene cfg heading =
      (.ok (), { s.note (.sceneNamed (Scene.name cfg.sceneToken heading)) with
        progress.scenes := scenes
        progress.draft := some ⟨Scene.name cfg.sceneToken heading, []⟩ }) := by
  unfold beginScene
  split
  · rename_i hnil
    exact absurd hnil hne
  · rw [Roster.register, Roster.offer_of_enter h]

theorem beginScene_of_not_mem (hne : Scene.name cfg.sceneToken heading ≠ [])
    (h : Scene.name cfg.sceneToken heading ∉ s.progress.scenes) :
    ∃ scenes : Roster,
      scenes.names = s.progress.scenes.names ++ [Scene.name cfg.sceneToken heading] ∧
      s.beginScene cfg heading =
        (.ok (), { s.note (.sceneNamed (Scene.name cfg.sceneToken heading)) with
          progress.scenes := scenes
          progress.draft := some ⟨Scene.name cfg.sceneToken heading, []⟩ }) := by
  cases henter : s.progress.scenes.enter? (Scene.name cfg.sceneToken heading) with
  | none => exact absurd (Roster.enter?_eq_none_iff.mp henter) h
  | some scenes => exact ⟨scenes, Roster.names_enter? henter, beginScene_of_enter hne henter⟩

/-- What a heading does depends on the scenes so far.  The sink and all else that a session has
come to are carried along, and an open scene is, unless a new one is begun. -/
theorem exists_beginScene_eq (cfg : Config) (heading : Text) (scenes : Roster) :
    ∃ (result : Except Failure Unit) (scenes' : Roster) (draft? : Option Draft) (event : Event),
      ∀ {σ : Type} (s : Session σ), s.progress.scenes = scenes →
        s.beginScene cfg heading = (result, { s.note event with
          progress.scenes := scenes'
          progress.draft := draft?.or s.progress.draft }) := by
  by_cases hname : Scene.name cfg.sceneToken heading = []
  · refine ⟨.ok (), scenes, none, .sceneSkipped heading, ?_⟩
    rintro σ s rfl
    exact beginScene_of_nil hname
  · cases henter : scenes.enter? (Scene.name cfg.sceneToken heading) with
    | none =>
        refine ⟨.error (.duplicateScene (Scene.name cfg.sceneToken heading)), scenes, none,
          .sceneNamed (Scene.name cfg.sceneToken heading), ?_⟩
        rintro σ s rfl
        exact beginScene_of_mem hname (Roster.enter?_eq_none_iff.mp henter)
    | some scenes' =>
        refine ⟨.ok (), scenes', some ⟨Scene.name cfg.sceneToken heading, []⟩,
          .sceneNamed (Scene.name cfg.sceneToken heading), ?_⟩
        rintro σ s rfl
        exact beginScene_of_enter hname henter

theorem log_beginScene (cfg : Config) (heading : Text) (s : Session σ) :
    (s.beginScene cfg heading).2.log = s.log ++ [Event.ofHeading cfg heading] := by
  by_cases hname : Scene.name cfg.sceneToken heading = []
  · rw [beginScene_of_nil hname, Event.ofHeading, if_pos hname]
    rfl
  · rw [Event.ofHeading, if_neg hname]
    by_cases hmem : Scene.name cfg.sceneToken heading ∈ s.progress.scenes
    · rw [beginScene_of_mem hname hmem]
      rfl
    · obtain ⟨scenes, -, hbegin⟩ := beginScene_of_not_mem hname hmem
      rw [hbegin]
      rfl

end Begin

/-! ## Adding a statement -/

section Statements

variable {σ : Type}

theorem progress_hear (speaker : Text) (s : Session σ) :
    (s.hear speaker).progress = { s.progress with
      speakers := (s.progress.speakers.enter? speaker).getD s.progress.speakers } := by
  rw [← Roster.snd_insert, hear]
  rcases s.progress.speakers.insert speaker with ⟨_ | _, speakers⟩ <;> rfl

theorem sink_hear (speaker : Text) (s : Session σ) :
    (s.hear speaker).sink = s.sink := by
  rw [hear]
  rcases s.progress.speakers.insert speaker with ⟨_ | _, speakers⟩ <;> rfl

theorem hear_of_mem {s : Session σ} {speaker : Text} (h : speaker ∈ s.progress.speakers) :
    s.hear speaker = s := by
  rw [hear, Roster.insert, Roster.offer_of_mem h]

theorem hear_of_not_mem {s : Session σ} {speaker : Text} (h : speaker ∉ s.progress.speakers) :
    ∃ speakers : Roster, speakers.names = s.progress.speakers.names ++ [speaker] ∧
      s.hear speaker = { s.note (.newSpeaker speaker) with progress.speakers := speakers } := by
  cases henter : s.progress.speakers.enter? speaker with
  | none => exact absurd (Roster.enter?_eq_none_iff.mp henter) h
  | some speakers =>
      refine ⟨speakers, Roster.names_enter? henter, ?_⟩
      rw [hear, Roster.insert, Roster.offer_of_enter henter]

theorem sink_addStatement (st : Statement) (s : Session σ) :
    (s.addStatement st).sink = s.sink := by
  unfold addStatement
  cases s.progress.draft with
  | none => rfl
  | some d =>
      cases st with
      | say dialogue => exact sink_hear _ _
      | pause => rfl
      | comment _ => rfl

theorem progress_addStatement {s : Session σ} {d : Draft}
    (h : s.progress.draft = some d) (st : Statement) :
    (s.addStatement st).progress = { s.progress with
      draft := some { d with statements := d.statements ++ [st] }
      speakers := st.speaker?.elim s.progress.speakers fun speaker =>
        (s.progress.speakers.enter? speaker).getD s.progress.speakers } := by
  unfold addStatement
  rw [h]
  cases st with
  | say dialogue =>
      simp only [note, progress_hear]
      rfl
  | pause => rfl
  | comment _ => rfl

theorem addStatement_of_some {s : Session σ} {d : Draft} (h : s.progress.draft = some d)
    (st : Statement) :
    s.addStatement st = { (st.speaker?.elim s s.hear).note (traceOf d.name st) with
      progress.draft := some { d with statements := d.statements ++ [st] } } := by
  unfold addStatement
  rw [h]
  cases st with
  | say dialogue => rfl
  | pause => rfl
  | comment _ => rfl

theorem addStatement_of_none {s : Session σ} (h : s.progress.draft = none)
    (st : Statement) : s.addStatement st = s := by
  unfold addStatement
  rw [h]

end Statements

/-! ## Taking in a line -/

section Feed

variable {σ : Type} [Sink σ] {cfg : Config} {s : Session σ} {text heading : Text}

theorem feed_scene (hp : s.progress.phase = .inScript) (h : Line.ofText text = .scene heading) :
    s.feed cfg text = s.openScene cfg heading := by
  simp only [feed, hp, h]

theorem feed_title (hp : s.progress.phase = .inScript) (h : Line.ofText text = .title heading) :
    s.feed cfg text =
      (.ok (), { s.note (.scriptEnds heading) with progress.phase := .ended }) := by
  simp only [feed, hp, h]

theorem feed_statement {st : Statement} (hp : s.progress.phase = .inScript)
    (h : Line.ofText text = .statement st) :
    s.feed cfg text = (.ok (), s.addStatement st) := by
  simp only [feed, hp, h]

theorem feed_blank (hp : s.progress.phase = .inScript) (h : Line.ofText text = .blank) :
    s.feed cfg text = (.ok (), s) := by
  simp only [feed, hp, h]

theorem feed_of_searching (hp : s.progress.phase = .searching)
    (h : Script.isEntry cfg (Line.ofText text) = false) : s.feed cfg text = (.ok (), s) := by
  unfold feed
  rw [hp]
  cases hl : Line.ofText text with
  | title heading =>
      rw [hl] at h
      exact if_neg (by rw [show cfg.isEntryPoint heading = false from h]; decide)
  | scene _ => rfl
  | statement _ => rfl
  | blank => rfl

theorem feed_entry (hp : s.progress.phase = .searching) (h : Line.ofText text = .title heading)
    (hentry : cfg.isEntryPoint heading = true) :
    s.feed cfg text = (.ok (), { s.note .entryFound with progress.phase := .inScript }) := by
  simp only [feed, hp, h, hentry, if_true]

end Feed

/-! ## Taking in many lines -/

theorem isDone_eq_false {σ : Type} {s : Session σ} {phase : Phase}
    (h : s.progress.phase = phase) (hne : phase ≠ .ended) : s.isDone = false := by
  rw [isDone, h, beq_eq_false_iff_ne]
  exact hne

theorem phase_of_isDone {σ : Type} {s : Session σ} (h : s.isDone = true) :
    s.progress.phase = .ended :=
  beq_iff_eq.mp h

section FeedAll

variable {σ : Type} [Sink σ] {cfg : Config} {origin : Path} {s s' : Session σ} {text : Text}
  {rest : List (Except IoCause Text)}

theorem feedAll_cons_of_ok (h : s.feed cfg text = (.ok (), s')) (hgoes : s'.isDone = false) :
    s.feedAll cfg origin (.ok text :: rest) = s'.feedAll cfg origin rest := by
  simp only [feedAll, h, hgoes, Bool.false_eq_true, if_false]

theorem feedAll_cons_of_done (h : s.feed cfg text = (.ok (), s')) (hdone : s'.isDone = true) :
    s.feedAll cfg origin (.ok text :: rest) = (.ok (), s') := by
  simp only [feedAll, h, hdone, if_true]

theorem feedAll_cons_of_error {failure : Failure} (h : s.feed cfg text = (.error failure, s')) :
    s.feedAll cfg origin (.ok text :: rest) = (.error failure, s') := by
  simp only [feedAll, h]

theorem feedAll_front (hp : s.progress.phase = .searching) {front : List Text}
    (hfront : ∀ text ∈ front, Script.isEntry cfg (Line.ofText text) = false) :
    s.feedAll cfg origin (front.map .ok ++ rest) = s.feedAll cfg origin rest := by
  induction front with
  | nil => rfl
  | cons text more ih =>
      rw [List.forall_mem_cons] at hfront
      rw [List.map_cons, List.cons_append, feedAll_cons_of_ok (feed_of_searching hp hfront.1)
        (isDone_eq_false hp (by decide)), ih hfront.2]

end FeedAll

/-! ## Actions in a row -/

section Rows

variable {σ : Type} [Sink σ]

theorem openScene_eq_andThen (cfg : Config) (heading : Text) (s : Session σ) :
    s.openScene cfg heading =
      ((s.note (.sceneHeading heading)).closeScene cfg).andThen (·.beginScene cfg heading) := by
  unfold openScene
  rcases (s.note (.sceneHeading heading)).closeScene cfg with ⟨_ | _, _⟩
  · rfl
  · rfl

/-- A heading closes the scene before it, and begins another if that went well. -/
theorem openScene_cases (cfg : Config) (heading : Text) (s : Session σ) :
    (∃ failure, s.openScene cfg heading =
      (.error failure, ((s.note (.sceneHeading heading)).closeScene cfg).2)) ∨
      s.openScene cfg heading =
        ((s.note (.sceneHeading heading)).closeScene cfg).2.beginScene cfg heading := by
  rw [openScene_eq_andThen]
  exact Outcome.andThen_cases _ _

theorem writeHelpers_eq_andThen (cfg : Config) (s : Session σ) :
    s.writeHelpers cfg =
      ((s.note (.writing cfg.transitionFile)).write cfg.transitionFile
        Code.transitionClass).andThen fun s =>
      ((s.note (.writing cfg.dialogFile)).write cfg.dialogFile
        (Code.dialogClass s.progress.speakers.names)).andThen fun s => (.ok s.report, s) := by
  unfold writeHelpers
  rcases (s.note (.writing cfg.transitionFile)).write cfg.transitionFile
    Code.transitionClass with ⟨_ | _, t⟩
  · rfl
  · simp only [Outcome.andThen]
    rcases (t.note (.writing cfg.dialogFile)).write cfg.dialogFile
      (Code.dialogClass t.progress.speakers.names) with ⟨_ | _, _⟩
    · rfl
    · rfl

theorem finish_of_searching {cfg : Config} {s : Session σ} (h : s.progress.phase = .searching) :
    s.finish cfg = (.error (.missingEntryPoint cfg.entryPoint), s) := by
  rw [finish, h]

theorem finish_eq_andThen {cfg : Config} {s : Session σ} (h : s.progress.phase ≠ .searching) :
    s.finish cfg = (s.closeScene cfg).andThen (·.writeHelpers cfg) := by
  unfold finish
  rcases s.closeScene cfg with ⟨_ | _, _⟩
  all_goals
    cases hp : s.progress.phase with
    | searching => exact absurd hp h
    | inScript => rfl
    | ended => rfl

theorem finishAfter_eq_andThen (cfg : Config) (o : Outcome σ Unit) :
    finishAfter cfg o = o.andThen (·.finish cfg) := by
  rcases o with ⟨_ | _, _⟩
  · rfl
  · rfl

theorem feedAll_cons_eq_andThen (cfg : Config) (origin : Path) (s : Session σ) (text : Text)
    (rest : List (Except IoCause Text)) :
    s.feedAll cfg origin (.ok text :: rest) = (s.feed cfg text).andThen fun s =>
      if s.isDone then (.ok (), s) else s.feedAll cfg origin rest := by
  rw [feedAll]
  rcases s.feed cfg text with ⟨_ | _, _⟩
  · rfl
  · rfl

end Rows

/-! ## What an action leaves alone -/

section Kept

variable {σ : Type} [Sink σ] {cfg : Config} {s : Session σ}

theorem exists_progress_write (s : Session σ) (path : Path) (code : Text) :
    ∃ files, (s.write path code).2.progress = { s.progress with files } := by
  unfold write
  split
  · exact ⟨_, rfl⟩
  · exact ⟨_, rfl⟩

theorem sink_write (s : Session σ) (path : Path) (code : Text) :
    (s.write path code).2.sink = (Sink.write s.sink path code).2 := by
  unfold write
  split
  · rename_i h
    rw [h]
  · rename_i h
    rw [h]

theorem closeScene_of_none (h : s.progress.draft = none) : s.closeScene cfg = (.ok (), s) := by
  rw [closeScene, h]

theorem closeScene_of_some {d : Draft} (h : s.progress.draft = some d) :
    s.closeScene cfg =
      { s with progress.draft := none }.write (cfg.scenePath d.name) d.code := by
  rw [closeScene, h]

theorem exists_progress_closeScene (cfg : Config) (s : Session σ) :
    ∃ files, (s.closeScene cfg).2.progress = { s.progress with draft := none, files } := by
  cases h : s.progress.draft with
  | none =>
      rw [closeScene_of_none h]
      exact ⟨s.progress.files, by rw [← h]⟩
  | some d =>
      rw [closeScene_of_some h]
      exact exists_progress_write _ _ _

omit [Sink σ] in
theorem sink_beginScene (cfg : Config) (heading : Text) (s : Session σ) :
    (s.beginScene cfg heading).2.sink = s.sink := by
  unfold beginScene
  split
  · rfl
  · split
    · rfl
    · rfl

omit [Sink σ] in
theorem progress_beginScene_cases (cfg : Config) (heading : Text) (s : Session σ) :
    (s.beginScene cfg heading).2.progress = s.progress ∨
      ∃ name scenes, scenes.names = s.progress.scenes.names ++ [name] ∧
        (s.beginScene cfg heading).2.progress =
          { s.progress with scenes, draft := some ⟨name, []⟩ } := by
  by_cases hname : Scene.name cfg.sceneToken heading = []
  · rw [beginScene_of_nil hname]
    exact Or.inl rfl
  · by_cases hmem : Scene.name cfg.sceneToken heading ∈ s.progress.scenes
    · rw [beginScene_of_mem hname hmem]
      exact Or.inl rfl
    · obtain ⟨scenes, hscenes, hbegin⟩ := beginScene_of_not_mem hname hmem
      rw [hbegin]
      exact Or.inr ⟨_, scenes, hscenes, rfl⟩

@[simp]
theorem draft_closeScene (cfg : Config) (s : Session σ) :
    (s.closeScene cfg).2.progress.draft = none := by
  obtain ⟨files, h⟩ := exists_progress_closeScene cfg s
  rw [h]

@[simp]
theorem scenes_closeScene (cfg : Config) (s : Session σ) :
    (s.closeScene cfg).2.progress.scenes = s.progress.scenes := by
  obtain ⟨files, h⟩ := exists_progress_closeScene cfg s
  rw [h]

@[simp]
theorem phase_closeScene (cfg : Config) (s : Session σ) :
    (s.closeScene cfg).2.progress.phase = s.progress.phase := by
  obtain ⟨files, h⟩ := exists_progress_closeScene cfg s
  rw [h]

omit [Sink σ] in
@[simp]
theorem phase_beginScene (cfg : Config) (heading : Text) (s : Session σ) :
    (s.beginScene cfg heading).2.progress.phase = s.progress.phase := by
  rcases progress_beginScene_cases cfg heading s with h | ⟨name, scenes, -, h⟩
  · rw [h]
  · rw [h]

omit [Sink σ] in
@[simp]
theorem files_beginScene (cfg : Config) (heading : Text) (s : Session σ) :
    (s.beginScene cfg heading).2.progress.files = s.progress.files := by
  rcases progress_beginScene_cases cfg heading s with h | ⟨name, scenes, -, h⟩
  · rw [h]
  · rw [h]

theorem phase_openScene (cfg : Config) (heading : Text) (s : Session σ) :
    (s.openScene cfg heading).2.progress.phase = s.progress.phase := by
  rcases openScene_cases cfg heading s with ⟨failure, h⟩ | h
  · rw [h, phase_closeScene]
    rfl
  · rw [h, phase_beginScene, phase_closeScene]
    rfl

theorem scenes_openScene_cases (cfg : Config) (heading : Text) (s : Session σ) :
    (s.openScene cfg heading).2.progress.scenes = s.progress.scenes ∨
      ∃ name, (s.openScene cfg heading).2.progress.scenes.names =
          s.progress.scenes.names ++ [name] ∧
        (s.openScene cfg heading).2.progress.draft = some ⟨name, []⟩ := by
  have hclose : ((s.note (.sceneHeading heading)).closeScene cfg).2.progress.scenes =
      s.progress.scenes := scenes_closeScene cfg _
  rcases openScene_cases cfg heading s with ⟨failure, h⟩ | h
  · rw [h]
    exact Or.inl hclose
  · rw [h, ← hclose]
    rcases progress_beginScene_cases cfg heading
      ((s.note (.sceneHeading heading)).closeScene cfg).2 with hp | ⟨name, scenes, hscenes, hp⟩
    · rw [hp]
      exact Or.inl rfl
    · rw [hp]
      exact Or.inr ⟨name, hscenes, rfl⟩

omit [Sink σ] in
theorem exists_progress_addStatement (st : Statement) (s : Session σ) :
    ∃ draft speakers, (s.addStatement st).progress = { s.progress with draft, speakers } := by
  cases h : s.progress.draft with
  | none =>
      rw [addStatement_of_none h]
      exact ⟨s.progress.draft, s.progress.speakers, rfl⟩
  | some d => exact ⟨_, _, progress_addStatement h st⟩

omit [Sink σ] in
@[simp]
theorem phase_addStatement (st : Statement) (s : Session σ) :
    (s.addStatement st).progress.phase = s.progress.phase := by
  obtain ⟨draft, speakers, h⟩ := exists_progress_addStatement st s
  rw [h]

omit [Sink σ] in
@[simp]
theorem scenes_addStatement (st : Statement) (s : Session σ) :
    (s.addStatement st).progress.scenes = s.progress.scenes := by
  obtain ⟨draft, speakers, h⟩ := exists_progress_addStatement st s
  rw [h]

omit [Sink σ] in
@[simp]
theorem files_addStatement (st : Statement) (s : Session σ) :
    (s.addStatement st).progress.files = s.progress.files := by
  obtain ⟨draft, speakers, h⟩ := exists_progress_addStatement st s
  rw [h]

theorem feed_of_ended (h : s.progress.phase = .ended) (text : Text) :
    s.feed cfg text = (.ok (), s) := by
  unfold feed
  rw [h]

/-- How far the script has come depends on what the line means and on nothing else; it
does not matter whether the line fails. -/
theorem phase_feed (cfg : Config) (s : Session σ) (text : Text) :
    (s.feed cfg text).2.progress.phase = s.progress.phase.next cfg (Line.ofText text) := by
  cases hp : s.progress.phase with
  | ended =>
      rw [feed_of_ended hp, hp]
      rfl
  | searching =>
      cases hentry : Script.isEntry cfg (Line.ofText text) with
      | false =>
          rw [feed_of_searching hp hentry, hp, Phase.next, hentry]
          rfl
      | true =>
          obtain ⟨heading, hl⟩ := Script.exists_title_of_isTitle (Script.isTitle_of_isEntry hentry)
          rw [Phase.next, hentry]
          rw [hl] at hentry
          rw [feed_entry hp hl hentry]
          rfl
  | inScript =>
      cases hl : Line.ofText text with
      | title heading =>
          rw [feed_title hp hl]
          rfl
      | scene heading =>
          rw [feed_scene hp hl, phase_openScene, hp]
          rfl
      | statement st =>
          rw [feed_statement hp hl, phase_addStatement, hp]
          rfl
      | blank =>
          rw [feed_blank hp hl, hp]
          rfl

/-- A line begins at most one scene, which is then open and empty. -/
theorem scenes_feed_cases (cfg : Config) (s : Session σ) (text : Text) :
    (s.feed cfg text).2.progress.scenes = s.progress.scenes ∨
      ∃ name, (s.feed cfg text).2.progress.scenes.names = s.progress.scenes.names ++ [name] ∧
        (s.feed cfg text).2.progress.draft = some ⟨name, []⟩ := by
  unfold feed
  split
  · split
    · exact Or.inl rfl
    · exact Or.inl rfl
  · exact Or.inl rfl
  · exact scenes_openScene_cases _ _ _
  · exact Or.inl (scenes_addStatement _ _)
  · exact Or.inl rfl

theorem phase_feed_of_not_title (hp : s.progress.phase = .inScript) {text : Text}
    (h : Script.isTitle (Line.ofText text) = false) :
    (s.feed cfg text).2.progress.phase = .inScript := by
  rw [phase_feed, hp, Phase.next, h]
  rfl

end Kept

/-! ## How an action fails -/

section Failing

variable {σ : Type} [Sink σ] {cfg : Config} {s : Session σ} {heading text : Text} {f : Failure}

theorem write_of_error {path : Path} {code : Text} (h : (s.write path code).1 = .error f) :
    ∃ failure sink, f = .io failure ∧ Sink.write s.sink path code = (.error failure, sink) ∧
      (s.write path code).2 = { s with sink } := by
  unfold write at h ⊢
  split at h
  · cases h
  · rename_i failure sink hsink
    exact ⟨failure, sink, (Except.error.inj h).symm, hsink, rfl⟩

theorem progress_write_of_ok {path : Path} {code : Text} (h : (s.write path code).1 = .ok ()) :
    (s.write path code).2.progress =
      { s.progress with files := s.progress.files ++ [path] } := by
  unfold write at h ⊢
  split at h
  · rfl
  · cases h

theorem closeScene_of_error (h : (s.closeScene cfg).1 = .error f) :
    ∃ d failure sink, s.progress.draft = some d ∧ f = .io failure ∧
      Sink.write s.sink (cfg.scenePath d.name) d.code = (.error failure, sink) ∧
      (s.closeScene cfg).2 = { s with progress.draft := none, sink } := by
  cases hd : s.progress.draft with
  | none =>
      rw [closeScene_of_none hd] at h
      cases h
  | some d =>
      rw [closeScene_of_some hd] at h ⊢
      obtain ⟨failure, sink, hf, hsink, hleft⟩ := write_of_error h
      exact ⟨d, failure, sink, rfl, hf, hsink, hleft⟩

theorem progress_closeScene_of_ok (h : (s.closeScene cfg).1 = .ok ()) :
    (s.closeScene cfg).2.progress = { s.progress with
      draft := none
      files := s.progress.files ++ s.progress.draft.toList.map (cfg.scenePath ·.name) } := by
  cases hd : s.progress.draft with
  | none =>
      rw [closeScene_of_none hd, Option.toList_none, List.map_nil, List.append_nil, ← hd]
  | some d =>
      rw [closeScene_of_some hd] at h ⊢
      exact progress_write_of_ok h

omit [Sink σ] in
/-- Beginning a scene fails for its name only, and then changes nothing but the log. -/
theorem beginScene_of_error (h : (s.beginScene cfg heading).1 = .error f) :
    f = .duplicateScene (Scene.name cfg.sceneToken heading) ∧
      Scene.name cfg.sceneToken heading ∈ s.progress.scenes ∧
      (s.beginScene cfg heading).2 =
        s.note (.sceneNamed (Scene.name cfg.sceneToken heading)) := by
  by_cases hname : Scene.name cfg.sceneToken heading = []
  · rw [beginScene_of_nil hname] at h
    cases h
  · by_cases hmem : Scene.name cfg.sceneToken heading ∈ s.progress.scenes
    · rw [beginScene_of_mem hname hmem] at h ⊢
      exact ⟨(Except.error.inj h).symm, hmem, rfl⟩
    · obtain ⟨scenes, -, hbegin⟩ := beginScene_of_not_mem hname hmem
      rw [hbegin] at h
      cases h

/-- How a heading fails, and the session `t` that it leaves then. -/
inductive FailsBy (cfg : Config) (heading : Text) (s t : Session σ) : Failure → Prop
  /-- The file of the open scene is refused, and the scene is gone. -/
  | refused {d : Draft} {failure : IoFailure} {sink : σ} : s.progress.draft = some d →
      Sink.write s.sink (cfg.scenePath d.name) d.code = (.error failure, sink) →
      t = { s.note (.sceneHeading heading) with progress.draft := none, sink } →
      FailsBy cfg heading s t (.io failure)
  /-- The name came before; by then the open scene has been closed and its file listed. -/
  | repeated : Scene.name cfg.sceneToken heading ∈ s.progress.scenes →
      t.progress = { s.progress with
        draft := none
        files := s.progress.files ++ s.progress.draft.toList.map (cfg.scenePath ·.name) } →
      FailsBy cfg heading s t (.duplicateScene (Scene.name cfg.sceneToken heading))

theorem failsBy_openScene (h : (s.openScene cfg heading).1 = .error f) :
    FailsBy cfg heading s (s.openScene cfg heading).2 f := by
  rw [openScene_eq_andThen] at h ⊢
  rcases Outcome.andThen_of_error h with ⟨hclose, hopen⟩ | ⟨hclose, hopen⟩
  · obtain ⟨d, failure, sink, hd, rfl, hsink, hleft⟩ := closeScene_of_error hclose
    rw [hopen, hleft]
    exact .refused hd hsink rfl
  · rw [hopen] at h ⊢
    obtain ⟨rfl, hmem, hleft⟩ := beginScene_of_error h
    have hclosed := progress_closeScene_of_ok hclose
    rw [hclosed] at hmem
    rw [hleft]
    exact .repeated hmem hclosed

/-- No line fails but a heading of the script. -/
theorem failsBy_feed (h : (s.feed cfg text).1 = .error f) :
    s.progress.phase = .inScript ∧ ∃ heading, Line.ofText text = .scene heading ∧
      FailsBy cfg heading s (s.feed cfg text).2 f := by
  have hfed := h
  unfold feed at hfed
  split at hfed
  · split at hfed
    · cases hfed
    · cases hfed
  · cases hfed
  · rename_i heading hp hl
    refine ⟨hp, heading, hl, ?_⟩
    rw [feed_scene hp hl]
    exact failsBy_openScene hfed
  · cases hfed
  · cases hfed

end Failing

end Session

end StoryScript
