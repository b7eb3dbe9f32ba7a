/-
# `StoryScript.Proofs.Compilation.Accounts` — the books of a caller who goes on

A caller may go on feeding lines after one has failed, and then works with what the
failure has left: a scene whose file was refused is closed, and the heading that closed
it has begun nothing; a heading whose name came before has closed a scene and begun none.
The books are right all the same (`accounts_survive`).  The file of each scene that was
begun is tried once, in turn, and not before the next heading or the end:

    begun     Day     Noon     Night
    tried     Day     Noon               Night is open
    kept      Day                        Noon was refused

What the sink has kept is what it was not planned to refuse, and that is what the report
lists.
-/
import StoryScript.Proofs.Compilation.Feeding
import StoryScript.Proofs.Compilation.Writes

namespace StoryScript

/-! ## What is kept -/

namespace Planned

/-- The attempts that the plan lets pass. -/
def granted (plan : Nat → Path → Option IoFailure) (attempts : List (Path × Text)) :
    List (Path × Text) :=
  (attempts.zipIdx.filter fun (file, n) => (plan n file.1).isNone).map (·.1)

theorem granted_concat (plan : Nat → Path → Option IoFailure) (attempts : List (Path × Text))
    (file : Path × Text) :
    granted plan (attempts ++ [file]) =
      granted plan attempts ++ if (plan attempts.length file.1).isNone then [file] else [] := by
  rw [granted, List.zipIdx_append, List.filter_append, List.map_append, Nat.zero_add,
    List.zipIdx_singleton, List.filter_cons, List.filter_nil, granted]
  congr 1
  exact apply_ite (List.map Prod.fst) _ _ _

/-- The sink has kept what the plan lets pass, and that is what is listed. -/
structure Listed (plan : Nat → Path → Option IoFailure) (p : Planned) (files : List Path) :
    Prop where
  planned : p.plan = plan
  kept : p.kept = granted plan p.attempts
  files : files = p.kept.map (·.1)

theorem keptByWrites_listed (plan : Nat → Path → Option IoFailure) :
    KeptByWrites (Listed plan) := by
  rintro s path code ⟨rfl, hkept, hfiles⟩
  cases hplan : s.sink.plan s.sink.attempts.length path with
  | none =>
      rw [Session.write, write_of_none hplan]
      refine ⟨rfl, ?_, ?_⟩
      · rw [granted_concat, hplan, hkept]
        rfl
      · show s.progress.files ++ [path] = _
        rw [hfiles, List.map_append]
        rfl
  | some failure =>
      rw [Session.write, write_of_some hplan]
      refine ⟨rfl, ?_, hfiles⟩
      rw [granted_concat, hplan, hkept]
      exact (List.append_nil _).symm

end Planned

/-! ## Going on -/

theorem Phase.next_ne_searching {cfg : Config} {phase : Phase} {line : Line}
    (h : phase ≠ .searching ∨ Script.isEntry cfg line = true) :
    phase.next cfg line ≠ .searching := by
  cases phase with
  | searching =>
      have hentry : Script.isEntry cfg line = true := h.resolve_left fun hne => hne rfl
      rw [Phase.next, hentry]
      decide
  | inScript =>
      rw [Phase.next]
      split
      · decide
      · decide
  | ended =>
      rw [Phase.next]
      decide

namespace Session

variable {cfg : Config}

section FeedOn

variable {σ : Type} [Sink σ] {s : Session σ} {texts : List Text}

theorem feedOn_append (front back : List Text) :
    s.feedOn cfg (front ++ back) = (s.feedOn cfg front).feedOn cfg back :=
  List.foldl_append

theorem feedOn_keeps {P : Session σ → Prop} (h : ∀ s text, P s → P (s.feed cfg text).2)
    (hs : P s) (texts : List Text) : P (s.feedOn cfg texts) := by
  induction texts generalizing s with
  | nil => exact hs
  | cons text rest ih => exact ih (h s text hs)

theorem feedOn_of_no_entry (hp : s.progress.phase = .searching)
    (h : ∀ text ∈ texts, Script.isEntry cfg (Line.ofText text) = false) :
    s.feedOn cfg texts = s := by
  induction texts with
  | nil => rfl
  | cons text rest ih =>
      obtain ⟨htext, hrest⟩ := List.forall_mem_cons.mp h
      rw [feedOn, List.foldl_cons, feed_of_searching hp htext]
      exact ih hrest

theorem phase_feed_ne_searching (hp : s.progress.phase ≠ .searching) (text : Text) :
    (s.feed cfg text).2.progress.phase ≠ .searching := by
  rw [phase_feed]
  exact Phase.next_ne_searching (Or.inl hp)

/-- After an entry the script has started, whatever came before. -/
theorem phase_feedOn_of_entry
    (h : ∃ text ∈ texts, Script.isEntry cfg (Line.ofText text) = true) :
    (s.feedOn cfg texts).progress.phase ≠ .searching := by
  obtain ⟨entry, hmem, hentry⟩ := h
  obtain ⟨front, back, rfl⟩ := List.append_of_mem hmem
  rw [feedOn_append]
  refine feedOn_keeps (P := (·.progress.phase ≠ .searching))
    (fun _ text hp => phase_feed_ne_searching hp text) ?_ back
  rw [phase_feed]
  exact Phase.next_ne_searching (Or.inr hentry)

theorem sink_feed_of_not_heading {text : Text}
    (h : Script.isHeading (Line.ofText text) = false) : (s.feed cfg text).2.sink = s.sink := by
  unfold feed
  split
  · split
    · rfl
    · rfl
  · rfl
  · rename_i hl
    rw [hl] at h
    cases h
  · exact sink_addStatement _ _
  · rfl

theorem sink_feedOn_of_not_heading
    (h : ∀ text ∈ texts, Script.isHeading (Line.ofText text) = false) :
    (s.feedOn cfg texts).sink = s.sink := by
  induction texts generalizing s with
  | nil => rfl
  | cons text rest ih =>
      obtain ⟨htext, hrest⟩ := List.forall_mem_cons.mp h
      exact (ih hrest).trans (sink_feed_of_not_heading htext)

end FeedOn

/-! ## What is tried -/

variable {s : Session Planned}

theorem attempts_write (s : Session Planned) (path : Path) (code : Text) :
    (s.write path code).2.sink.attempts = s.sink.attempts ++ [(path, code)] := by
  rw [sink_write]
  cases hplan : s.sink.plan s.sink.attempts.length path with
  | none => rw [Planned.write_of_none hplan]
  | some failure => rw [Planned.write_of_some hplan]

theorem attempts_closeScene (cfg : Config) (s : Session Planned) :
    (s.closeScene cfg).2.sink.attempts =
      s.sink.attempts ++ s.progress.draft.toList.map (Draft.file cfg) := by
  cases hd : s.progress.draft with
  | none =>
      rw [closeScene_of_none hd]
      exact (List.append_nil _).symm
  | some d =>
      rw [closeScene_of_some hd, attempts_write]
      rfl

/-- The file of each scene that was begun has been tried once, in turn, except that the
open scene's is still to come. -/
def Accounted (cfg : Config) (s : Session Planned) : Prop :=
  s.sink.attempts.map (·.1) ++ s.progress.draft.toList.map (cfg.scenePath ·.name) =
    s.progress.scenes.names.map cfg.scenePath

/-- A fresh session whose writes fail by plan. -/
def planned (plan : Nat → Path → Option IoFailure) : Session Planned := { sink := { plan } }

theorem accounted_planned (cfg : Config) (plan : Nat → Path → Option IoFailure) :
    (planned plan).Accounted cfg := rfl

theorem Accounted.paths_closeScene (h : s.Accounted cfg) :
    (s.closeScene cfg).2.sink.attempts.map (·.1) =
      s.progress.scenes.names.map cfg.scenePath := by
  rw [attempts_closeScene, List.map_append, List.map_map, ← h]
  rfl

theorem Accounted.closeScene (h : s.Accounted cfg) : (s.closeScene cfg).2.Accounted cfg := by
  obtain ⟨files, hprogress⟩ := exists_progress_closeScene cfg s
  rw [Accounted, h.paths_closeScene, hprogress]
  exact List.append_nil _

theorem Accounted.beginScene (h : s.Accounted cfg) (hd : s.progress.draft = none)
    (heading : Text) : (s.beginScene cfg heading).2.Accounted cfg := by
  rw [Accounted, sink_beginScene]
  rcases progress_beginScene_cases cfg heading s with hp | ⟨name, scenes, hscenes, hp⟩
  · rw [hp]
    exact h
  · rw [Accounted, hd, Option.toList_none, List.map_nil, List.append_nil] at h
    rw [hp, hscenes, List.map_append, ← h]
    rfl

theorem Accounted.openScene (h : s.Accounted cfg) (heading : Text) :
    (s.openScene cfg heading).2.Accounted cfg := by
  have hclosed : ((s.note (.sceneHeading heading)).closeScene cfg).2.Accounted cfg :=
    closeScene (s := s.note (.sceneHeading heading)) h
  rcases openScene_cases cfg heading s with ⟨failure, hopen⟩ | hopen
  · rw [hopen]
    exact hclosed
  · rw [hopen]
    exact hclosed.beginScene (draft_closeScene cfg _) heading

theorem Accounted.addStatement (h : s.Accounted cfg) (st : Statement) :
    (s.addStatement st).Accounted cfg := by
  cases hd : s.progress.draft with
  | none => rwa [addStatement_of_none hd]
  | some d =>
      rw [Accounted, hd] at h
      rw [Accounted, sink_addStatement, progress_addStatement hd]
      exact h

theorem Accounted.feed (h : s.Accounted cfg) (text : Text) :
    (s.feed cfg text).2.Accounted cfg := by
  unfold Session.feed
  split
  · split
    · exact h
    · exact h
  · exact h
  · exact h.openScene _
  · exact h.addStatement _
  · exact h

/-- A line that begins a scene does not try the file of this scene: the files tried are those of
the scenes begun before. -/
theorem Accounted.paths_feed_of_begun (h : s.Accounted cfg) {text name : Text}
    (hname : (s.feed cfg text).2.progress.scenes.names = s.progress.scenes.names ++ [name]) :
    (s.feed cfg text).2.sink.attempts.map (·.1) =
      s.progress.scenes.names.map cfg.scenePath := by
  rcases scenes_feed_cases cfg s text with hsame | ⟨name', hnames, hd⟩
  · rw [hsame] at hname
    have hlength := congrArg List.length hname
    rw [List.length_append, List.length_singleton] at hlength
    omega
  · have hbook := h.feed text
    rw [Accounted, hd, hnames, List.map_append] at hbook
    exact List.append_cancel_right hbook

theorem Accounted.paths_feedOn_of_begun (h : s.Accounted cfg) {text name : Text}
    (hname : (s.feed cfg text).2.progress.scenes.names = s.progress.scenes.names ++ [name])
    {between : List Text}
    (hbetween : ∀ text ∈ between, Script.isHeading (Line.ofText text) = false) :
    (s.feedOn cfg (text :: between)).sink.attempts.map (·.1) =
      s.progress.scenes.names.map cfg.scenePath := by
  show ((s.feed cfg text).2.feedOn cfg between).sink.attempts.map (·.1) = _
  rw [sink_feedOn_of_not_heading hbetween]
  exact h.paths_feed_of_begun hname

/-! ## The end -/

theorem exists_write (s : Session Planned) (path : Path) (code : Text) :
    ∃ result t, s.write path code = (result, t) ∧
      t.sink.attempts = s.sink.attempts ++ [(path, code)] ∧
      t.progress.scenes = s.progress.scenes := by
  obtain ⟨files, hprogress⟩ := exists_progress_write s path code
  refine ⟨(s.write path code).1, (s.write path code).2, rfl, attempts_write s path code, ?_⟩
  rw [hprogress]

theorem exists_attempts_writeHelpers (cfg : Config) (s : Session Planned) :
    ∃ helpers, (s.writeHelpers cfg).2.sink.attempts = s.sink.attempts ++ helpers ∧
      helpers.map (·.1) <+: [cfg.transitionFile, cfg.dialogFile] ∧
      ∀ r, (s.writeHelpers cfg).1 = .ok r →
        helpers.map (·.1) = [cfg.transitionFile, cfg.dialogFile] ∧
          r = (s.writeHelpers cfg).2.report ∧ r.scenes = s.progress.scenes.names := by
  obtain ⟨first, t, hfirst, htried, hscenes⟩ :=
    exists_write (s.note (.writing cfg.transitionFile)) cfg.transitionFile Code.transitionClass
  rw [writeHelpers_eq_andThen, hfirst]
  cases first with
  | error failure =>
      refine ⟨_, htried, ⟨[cfg.dialogFile], rfl⟩, ?_⟩
      intro r hr
      cases hr
  | ok _ =>
      obtain ⟨second, u, hsecond, htried', hscenes'⟩ :=
        exists_write (t.note (.writing cfg.dialogFile)) cfg.dialogFile
          (Code.dialogClass t.progress.speakers.names)
      have hboth : u.sink.attempts = s.sink.attempts ++
          [(cfg.transitionFile, Code.transitionClass),
            (cfg.dialogFile, Code.dialogClass t.progress.speakers.names)] := by
        rw [htried']
        show t.sink.attempts ++ _ = _
        rw [htried, List.append_assoc]
        rfl
      simp only [Outcome.andThen, hsecond]
      cases second with
      | error failure =>
          refine ⟨_, hboth, List.prefix_rfl, ?_⟩
          intro r hr
          cases hr
      | ok _ =>
          refine ⟨_, hboth, List.prefix_rfl, ?_⟩
          intro r hr
          obtain rfl := Except.ok.inj hr
          exact ⟨rfl, rfl, congrArg Roster.names (hscenes'.trans hscenes)⟩

theorem exists_attempts_finish {s : Session Planned} (hp : s.progress.phase ≠ .searching) :
    ∃ helpers, (s.finish cfg).2.sink.attempts =
        (s.closeScene cfg).2.sink.attempts ++ helpers ∧
      helpers.map (·.1) <+: [cfg.transitionFile, cfg.dialogFile] ∧
      ∀ r, (s.finish cfg).1 = .ok r →
        helpers.map (·.1) = [cfg.transitionFile, cfg.dialogFile] ∧
          r = (s.finish cfg).2.report ∧ r.scenes = s.progress.scenes.names := by
  rw [finish_eq_andThen hp]
  rcases (s.closeScene cfg).andThen_cases (·.writeHelpers cfg) with ⟨failure, h⟩ | h
  · rw [h]
    refine ⟨[], (List.append_nil _).symm, List.nil_prefix, ?_⟩
    intro r hr
    cases hr
  · rw [h, ← scenes_closeScene cfg s]
    exact exists_attempts_writeHelpers cfg _

/-- A report is what the session has come to, and lists the scenes that were begun; by then their
files and both helpers have been tried, in this order. -/
theorem Accounted.report_finish (h : s.Accounted cfg) {r : Report}
    (hok : (s.finish cfg).1 = .ok r) :
    r = (s.finish cfg).2.report ∧ r.scenes = s.progress.scenes.names ∧
      (s.finish cfg).2.sink.attempts.map (·.1) =
        r.scenes.map cfg.scenePath ++ [cfg.transitionFile, cfg.dialogFile] := by
  have hp : s.progress.phase ≠ .searching := by
    intro hp
    rw [finish_of_searching hp] at hok
    cases hok
  obtain ⟨helpers, htried, -, hend⟩ := exists_attempts_finish hp
  obtain ⟨hhelpers, hreport, hscenes⟩ := hend r hok
  refine ⟨hreport, hscenes, ?_⟩
  rw [htried, List.map_append, h.paths_closeScene, hhelpers, hscenes]

/-! ## A fresh session, fed and finished -/

variable {plan : Nat → Path → Option IoFailure} {texts : List Text}

theorem accounted_feedOn (cfg : Config) (plan : Nat → Path → Option IoFailure)
    (texts : List Text) : ((planned plan).feedOn cfg texts).Accounted cfg :=
  feedOn_keeps (P := Accounted cfg) (fun _ text h => h.feed text) (accounted_planned cfg plan)
    texts

theorem listed_finish (cfg : Config) (plan : Nat → Path → Option IoFailure)
    (texts : List Text) :
    (((planned plan).feedOn cfg texts).finish cfg).2.Satisfies (Planned.Listed plan) := by
  have hkept := Planned.keptByWrites_listed plan
  refine hkept.finish cfg ?_
  exact feedOn_keeps (P := Satisfies (Planned.Listed plan))
    (fun _ text h => hkept.feed cfg text h) ⟨rfl, rfl, rfl⟩ texts

theorem finish_of_no_entry
    (h : ∀ text ∈ texts, Script.isEntry cfg (Line.ofText text) = false) :
    ((planned plan).feedOn cfg texts).finish cfg =
      (.error (.missingEntryPoint cfg.entryPoint), planned plan) := by
  rw [feedOn_of_no_entry rfl h]
  exact finish_of_searching rfl

end Session

/-- **The accounts survive failures.**  Lines are fed to a fresh session, whatever they
are and whichever writes are refused, and the caller goes on after every failure and
finishes at last.

Without an entry nothing is tried and that is the failure.  With one the files of the
scenes that were begun are tried once each and in turn, and after them the helpers as far
as it comes.  A scene that was begun is not tried before the next heading or the end.  A
report lists the scenes that were begun, without repeats, and the files that were taken,
which are those that the plan lets pass; both helpers have been tried then. -/
theorem accounts_survive (cfg : Config) (plan : Nat → Path → Option IoFailure)
    (texts : List Text) :
    let after (texts : List Text) := (Session.planned plan).feedOn cfg texts
    let scenes := (after texts).progress.scenes.names
    let closed := ((after texts).closeScene cfg).2
    let ended := (after texts).finish cfg
    ((∀ text ∈ texts, Script.isEntry cfg (Line.ofText text) = false) →
      ended.1 = .error (.missingEntryPoint cfg.entryPoint) ∧ ended.2.sink.attempts = []) ∧
    ((∃ text ∈ texts, Script.isEntry cfg (Line.ofText text) = true) →
      scenes.Nodup ∧ closed.sink.attempts.map (·.1) = scenes.map cfg.scenePath ∧
      ∃ helpers, ended.2.sink.attempts = closed.sink.attempts ++ helpers ∧
        helpers.map (·.1) <+: [cfg.transitionFile, cfg.dialogFile]) ∧
    (∀ front text between name,
      (after (front ++ [text])).progress.scenes.names =
        (after front).progress.scenes.names ++ [name] →
      (∀ text ∈ between, Script.isHeading (Line.ofText text) = false) →
      (after (front ++ text :: between)).sink.attempts.map (·.1) =
        (after front).progress.scenes.names.map cfg.scenePath) ∧
    ∀ r, ended.1 = .ok r →
      r.scenes = scenes ∧ r.scenes.Nodup ∧
      ended.2.sink.attempts.map (·.1) =
        r.scenes.map cfg.scenePath ++ [cfg.transitionFile, cfg.dialogFile] ∧
      r.files = ended.2.sink.kept.map (·.1) ∧
      ended.2.sink.kept = Planned.granted plan ended.2.sink.attempts := by
  intro after scenes closed ended
  refine ⟨?_, ?_, ?_, ?_⟩
  · intro hentry
    have hend : ended = (.error (.missingEntryPoint cfg.entryPoint), Session.planned plan) :=
      Session.finish_of_no_entry hentry
    rw [hend]
    exact ⟨rfl, rfl⟩
  · intro hentry
    obtain ⟨helpers, htried, hhelpers, -⟩ :=
      Session.exists_attempts_finish (Session.phase_feedOn_of_entry hentry)
    exact ⟨Roster.nodup _, (Session.accounted_feedOn cfg plan texts).paths_closeScene, helpers,
      htried, hhelpers⟩
  · intro front text between name hname hbetween
    have hsplit (back : List Text) :
        after (front ++ text :: back) = (after front).feedOn cfg (text :: back) :=
      Session.feedOn_append _ _
    rw [hsplit] at hname ⊢
    exact (Session.accounted_feedOn cfg plan front).paths_feedOn_of_begun hname hbetween
  · intro r hr
    have hlisted := Session.listed_finish cfg plan texts
    obtain ⟨hreport, hscenes, htried⟩ :=
      (Session.accounted_feedOn cfg plan texts).report_finish hr
    refine ⟨hscenes, ?_, htried, ?_, hlisted.kept⟩
    · rw [hscenes]
      exact Roster.nodup _
    · rw [hreport]
      exact hlisted.files

/-- The file of the first scene is refused, so the heading behind it begins nothing; the
next one has the name of the first.  What comes then is compiled. -/
theorem accounts_survive_refused_day :
    let plan (n : Nat) (path : Path) : Option IoFailure :=
      if n = 0 then some ⟨path, .other "disk full".toList⟩ else none
    let texts := ["# Script", "## Day", "## Noon", "## Day", "## Night", "Bob: Hi."].map
      String.toList
    let ended := ((Session.planned plan).feedOn {} texts).finish {}
    ∃ r, ended.1 = .ok r ∧ r.scenes = ["Day".toList, "Night".toList] ∧
      ended.2.sink.attempts.map (·.1) = [⟨"Scenes/Day.cs".toList⟩, ⟨"Scenes/Night.cs".toList⟩,
        ⟨"Transition.cs".toList⟩, ⟨"Dialog.cs".toList⟩] ∧
      r.files = ended.2.sink.kept.map (·.1) := by
  intro plan texts
  obtain ⟨-, -, -, hreport⟩ := accounts_survive {} plan texts
  dsimp only at hreport ⊢
  have hok : (((Session.planned plan).feedOn {} texts).finish {}).1 =
      .ok ⟨["Day".toList, "Night".toList], ["Bob".toList],
        [⟨"Scenes/Night.cs".toList⟩, ⟨"Transition.cs".toList⟩, ⟨"Dialog.cs".toList⟩]⟩ := by
    decide +kernel
  obtain ⟨-, -, htried, hfiles, -⟩ := hreport _ hok
  exact ⟨_, hok, rfl, htried, hfiles⟩

end StoryScript
