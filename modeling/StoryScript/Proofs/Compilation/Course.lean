/-
# `StoryScript.Proofs.Compilation.Course` — where a compilation stands after each line

A compilation that goes through the body of a script stands, after each line, where
the outline of the lines so far says:

    scenes      the names of the headings so far
    speakers    whoever was heard in a live section so far
    files       the live sections that another heading has ended, written
    draft       the last section, if it is live: it may still go on

`Session.HasTaken` is this invariant.  A heading keeps it unless its name has come
before, any other line always does (`HasTaken.feed_heading`, `HasTaken.feed_other`),
and so does a whole stretch of lines whose names are all different
(`HasTaken.feedAll`).
-/
import StoryScript.Proofs.Compilation.Step
import StoryScript.Proofs.Roster

namespace StoryScript

namespace Script

/-! ## What is open and what is closed -/

/-- What a compilation holds of the last section, if that has a name. -/
def openDraft? (cfg : Config) (body : List Line) : Option Draft :=
  (sections body).getLast?.bind fun sec => if sec.isLive cfg then some (sec.draft cfg) else none

/-- The live sections that another heading has ended. -/
def closedSections (cfg : Config) (body : List Line) : List Section :=
  (sections body).dropLast.filter (·.isLive cfg)

/-- Who has been heard in the live sections, as often as it happened. -/
def heard (cfg : Config) (body : List Line) : List Text :=
  (liveSections cfg body).flatMap Section.speakers

theorem openDraft?_of_concat {cfg : Config} {body : List Line} {init : List Section}
    {last : Section} (h : sections body = init ++ [last]) :
    openDraft? cfg body = if last.isLive cfg then some (last.draft cfg) else none := by
  rw [openDraft?, h, List.getLast?_concat]
  rfl

theorem closedSections_of_concat {cfg : Config} {body : List Line} {init : List Section}
    {last : Section} (h : sections body = init ++ [last]) :
    closedSections cfg body = init.filter (·.isLive cfg) := by
  rw [closedSections, h, List.dropLast_concat]

theorem liveSections_of_concat {cfg : Config} {body : List Line} {init : List Section}
    {last : Section} (h : sections body = init ++ [last]) :
    liveSections cfg body =
      init.filter (·.isLive cfg) ++ if last.isLive cfg then [last] else [] := by
  rw [liveSections, h, List.filter_append]
  cases hlive : last.isLive cfg <;> simp [hlive]

theorem map_file_liveSections (cfg : Config) (body : List Line) :
    (liveSections cfg body).map (·.file cfg) =
      (closedSections cfg body).map (·.file cfg) ++
        (openDraft? cfg body).toList.map (·.file cfg) := by
  rcases List.eq_nil_or_concat (sections body) with h | ⟨init, last, h⟩
  · simp only [liveSections, closedSections, openDraft?, h]
    rfl
  · rw [List.concat_eq_append] at h
    rw [liveSections_of_concat h, closedSections_of_concat h, openDraft?_of_concat h,
      List.map_append]
    split <;> rfl

/-! ### Behind a heading -/

theorem openDraft?_snoc_heading (cfg : Config) (body : List Line) (heading : Text) :
    openDraft? cfg (body ++ [.scene heading]) =
      if Scene.name cfg.sceneToken heading = [] then none
      else some ⟨Scene.name cfg.sceneToken heading, []⟩ := by
  rw [openDraft?_of_concat (sections_snoc_heading body heading)]
  by_cases h : Scene.name cfg.sceneToken heading = []
  · simp [Section.isLive, Section.name, h]
  · simp [Section.isLive, Section.name, Section.draft, Section.statements, h]

theorem closedSections_snoc_heading (cfg : Config) (body : List Line) (heading : Text) :
    closedSections cfg (body ++ [.scene heading]) = liveSections cfg body :=
  closedSections_of_concat (sections_snoc_heading body heading)

theorem heard_snoc_heading (cfg : Config) (body : List Line) (heading : Text) :
    heard cfg (body ++ [.scene heading]) = heard cfg body := by
  rw [heard, liveSections_of_concat (sections_snoc_heading body heading), List.flatMap_append]
  split
  · exact List.append_nil _
  · exact List.append_nil _

/-! ### Behind any other line -/

section

variable {cfg : Config} {line : Line}

theorem openDraft?_snoc_of_not_heading (h : isHeading line = false) (body : List Line) :
    openDraft? cfg (body ++ [line]) = (openDraft? cfg body).map fun d =>
      { d with statements := d.statements ++ line.statement?.toList } := by
  rcases sections_snoc_cases h body with ⟨hbody, hsnoc⟩ | ⟨init, last, hbody, hsnoc⟩
  · rw [openDraft?, openDraft?, hsnoc, hbody]
    rfl
  · rw [openDraft?_of_concat hsnoc, openDraft?_of_concat hbody,
      show (last.add line).isLive cfg = last.isLive cfg from rfl]
    split
    · rw [Section.draft, Section.statements_add]
      rfl
    · rfl

theorem closedSections_snoc_of_not_heading (h : isHeading line = false) (body : List Line) :
    closedSections cfg (body ++ [line]) = closedSections cfg body := by
  rcases sections_snoc_cases h body with ⟨hbody, hsnoc⟩ | ⟨init, last, hbody, hsnoc⟩
  · rw [closedSections, closedSections, hsnoc, hbody]
  · rw [closedSections_of_concat hsnoc, closedSections_of_concat hbody]

theorem heard_snoc_of_not_heading (h : isHeading line = false) (body : List Line) :
    heard cfg (body ++ [line]) = heard cfg body ++
      if (openDraft? cfg body).isSome then (line.statement?.bind Statement.speaker?).toList
      else [] := by
  rcases sections_snoc_cases h body with ⟨hbody, hsnoc⟩ | ⟨init, last, hbody, hsnoc⟩
  · rw [heard, heard, liveSections, liveSections, openDraft?, hsnoc, hbody]
    rfl
  · rw [heard, heard, liveSections_of_concat hsnoc, liveSections_of_concat hbody,
      openDraft?_of_concat hbody, show (last.add line).isLive cfg = last.isLive cfg from rfl]
    split
    · rw [List.flatMap_append, List.flatMap_append, List.flatMap_singleton,
        List.flatMap_singleton, Section.speakers_add, ← List.append_assoc]
      rfl
    · simp only [List.append_nil, Option.isSome_none, Bool.false_eq_true, if_false]

end

end Script

namespace Session

/-! ## Where a session stands -/

/-- A session that has taken in the lines of `body`, its sink having held `m` before. -/
structure HasTaken (cfg : Config) (m : Memory) (body : List Line) (s : Session Memory) :
    Prop where
  /-- A scene was begun for every heading that makes a name. -/
  scenes : s.progress.scenes.names = Script.sceneNames cfg body
  /-- Everyone heard in a live section is known, in the order of first appearance. -/
  speakers : s.progress.speakers.names = Script.speakers cfg body
  /-- The last section is open, if it is live. -/
  draft : s.progress.draft = Script.openDraft? cfg body
  /-- The live sections that have ended are written, each whole. -/
  sink : s.sink.files = m.files ++ (Script.closedSections cfg body).map (·.file cfg)
  /-- The paths of the live sections that have ended are listed. -/
  files : s.progress.files = (Script.closedSections cfg body).map (·.path cfg)

/-- The session with its scene closed. -/
def closed (cfg : Config) (s : Session Memory) : Session Memory :=
  { s with
    progress.draft := none
    progress.files := s.progress.files ++ s.progress.draft.toList.map (cfg.scenePath ·.name)
    sink := ⟨s.sink.files ++ s.progress.draft.toList.map (·.file cfg)⟩ }

theorem closeScene_eq (cfg : Config) (s : Session Memory) :
    s.closeScene cfg = (.ok (), s.closed cfg) := by
  obtain ⟨⟨phase, draft, scenes, speakers, files⟩, sink, log⟩ := s
  cases draft with
  | none => simp [closeScene, closed]
  | some d => rfl

theorem exists_writeHelpers_eq (cfg : Config) (s : Session Memory) :
    ∃ s', s.writeHelpers cfg = (.ok ⟨s.progress.scenes.names, s.progress.speakers.names,
        s.progress.files ++ [cfg.transitionFile, cfg.dialogFile]⟩, s') ∧
      s'.sink.files = s.sink.files ++ [(cfg.transitionFile, Code.transitionClass),
        (cfg.dialogFile, Code.dialogClass s.progress.speakers.names)] := by
  refine ⟨_, Prod.ext (congrArg Except.ok ?_) rfl, ?_⟩
  · exact congrArg (Report.mk _ _) (List.append_assoc _ [_] [_])
  · exact List.append_assoc _ [_] [_]

theorem log_writeHelpers (cfg : Config) (s : Session Memory) :
    (s.writeHelpers cfg).2.log =
      s.log ++ [.writing cfg.transitionFile, .writing cfg.dialogFile] :=
  List.append_assoc _ [_] [_]

theorem openScene_eq (cfg : Config) (heading : Text) (s : Session Memory) :
    s.openScene cfg heading =
      ((s.note (.sceneHeading heading)).closed cfg).beginScene cfg heading := by
  rw [openScene, closeScene_eq]

/-! ## What one line keeps -/

namespace HasTaken

variable {cfg : Config} {m : Memory} {body : List Line} {s : Session Memory} {text : Text}

theorem sink_closed (h : HasTaken cfg m body s) :
    (s.closed cfg).sink.files = m.files ++ (Script.liveSections cfg body).map (·.file cfg) := by
  rw [Script.map_file_liveSections, ← List.append_assoc, ← h.sink, ← h.draft]
  rfl

theorem files_closed (h : HasTaken cfg m body s) :
    (s.closed cfg).progress.files = (Script.liveSections cfg body).map (·.path cfg) := by
  have hfiles := congrArg (List.map Prod.fst) (Script.map_file_liveSections cfg body)
  rw [List.map_append, List.map_map, List.map_map, List.map_map, ← h.draft] at hfiles
  refine Eq.trans ?_ hfiles.symm
  show s.progress.files ++ _ = _
  rw [h.files]
  rfl

theorem of_closed (h : HasTaken cfg m body s) {s' : Session Memory} {heading : Text}
    (hscenes : s'.progress.scenes.names =
      s.progress.scenes.names ++ Script.sceneNames cfg [.scene heading])
    (hdraft : s'.progress.draft = if Scene.name cfg.sceneToken heading = [] then none
      else some ⟨Scene.name cfg.sceneToken heading, []⟩)
    (hspeakers : s'.progress.speakers = s.progress.speakers)
    (hsink : s'.sink = (s.closed cfg).sink)
    (hfiles : s'.progress.files = (s.closed cfg).progress.files) :
    HasTaken cfg m (body ++ [.scene heading]) s' where
  scenes := by rw [hscenes, h.scenes, Script.sceneNames_append]
  speakers := by
    rw [hspeakers, h.speakers]
    exact congrArg List.eraseDups (Script.heard_snoc_heading cfg body heading).symm
  draft := by rw [hdraft, Script.openDraft?_snoc_heading]
  sink := by rw [hsink, h.sink_closed, Script.closedSections_snoc_heading]
  files := by rw [hfiles, h.files_closed, Script.closedSections_snoc_heading]

/-- A heading whose name is new, or that makes none, ends the section before it and
starts its own. -/
theorem feed_heading (h : HasTaken cfg m body s) (hp : s.progress.phase = .inScript)
    {heading : Text} (hl : Line.ofText text = .scene heading)
    (hnew : (Script.sceneNames cfg (body ++ [.scene heading])).Nodup) :
    ∃ s', s.feed cfg text = (.ok (), s') ∧ s'.progress.phase = .inScript ∧
      HasTaken cfg m (body ++ [.scene heading]) s' := by
  rw [feed_scene hp hl, openScene_eq]
  by_cases hname : Scene.name cfg.sceneToken heading = []
  · have hnone : Script.sceneNames cfg [.scene heading] = [] := by
      simp [Script.sceneNames, Line.heading?, hname]
    rw [beginScene_of_nil hname]
    refine ⟨_, rfl, hp, h.of_closed ?_ ?_ rfl rfl rfl⟩
    · rw [hnone, List.append_nil]
      rfl
    · rw [if_pos hname]
      rfl
  · have hone : Script.sceneNames cfg [.scene heading] = [Scene.name cfg.sceneToken heading] := by
      simp [Script.sceneNames, Line.heading?, hname]
    rw [Script.sceneNames_append, hone, List.nodup_append] at hnew
    have hmem : Scene.name cfg.sceneToken heading ∉
        ((s.note (.sceneHeading heading)).closed cfg).progress.scenes := by
      intro hmem
      have hin : Scene.name cfg.sceneToken heading ∈ Script.sceneNames cfg body := by
        rw [← h.scenes]
        exact hmem
      exact hnew.2.2 _ hin _ List.mem_cons_self rfl
    obtain ⟨scenes, hscenes, hbegin⟩ := beginScene_of_not_mem hname hmem
    rw [hbegin]
    refine ⟨_, rfl, hp, h.of_closed ?_ ?_ rfl rfl rfl⟩
    · rw [hone]
      exact hscenes
    · rw [if_neg hname]

/-- A heading whose name has come before is an error.  The scene before it is closed
all the same, so every live section up to here is written. -/
theorem feed_repeated (h : HasTaken cfg m body s) (hp : s.progress.phase = .inScript)
    {heading : Text} (hl : Line.ofText text = .scene heading)
    (hne : Scene.name cfg.sceneToken heading ≠ [])
    (hmem : Scene.name cfg.sceneToken heading ∈ Script.sceneNames cfg body) :
    ∃ s', s.feed cfg text =
        (.error (.duplicateScene (Scene.name cfg.sceneToken heading)), s') ∧
      s'.sink.files = m.files ++ (Script.liveSections cfg body).map (·.file cfg) := by
  have hin : Scene.name cfg.sceneToken heading ∈
      ((s.note (.sceneHeading heading)).closed cfg).progress.scenes := by
    rw [← h.scenes] at hmem
    exact hmem
  rw [feed_scene hp hl, openScene_eq, beginScene_of_mem hne hin]
  exact ⟨_, rfl, h.sink_closed⟩

theorem of_other (h : HasTaken cfg m body s) {s' : Session Memory} {line : Line}
    (hline : Script.isHeading line = false)
    (hdraft : s'.progress.draft = s.progress.draft.map fun d =>
      { d with statements := d.statements ++ line.statement?.toList })
    (hspeakers : s'.progress.speakers.names = (Script.heard cfg body ++
      if s.progress.draft.isSome then (line.statement?.bind Statement.speaker?).toList
      else []).eraseDups)
    (hscenes : s'.progress.scenes = s.progress.scenes) (hsink : s'.sink = s.sink)
    (hfiles : s'.progress.files = s.progress.files) :
    HasTaken cfg m (body ++ [line]) s' where
  scenes := by
    have hnone : Script.sceneNames cfg [line] = [] := by
      cases line with
      | scene _ => cases hline
      | title _ => rfl
      | statement _ => rfl
      | blank => rfl
    rw [hscenes, h.scenes, Script.sceneNames_append, hnone, List.append_nil]
  speakers := by
    rw [hspeakers, h.draft]
    exact congrArg List.eraseDups (Script.heard_snoc_of_not_heading hline body).symm
  draft := by rw [hdraft, h.draft, Script.openDraft?_snoc_of_not_heading hline]
  sink := by rw [hsink, h.sink, Script.closedSections_snoc_of_not_heading hline]
  files := by rw [hfiles, h.files, Script.closedSections_snoc_of_not_heading hline]

theorem feed_other (h : HasTaken cfg m body s) (hp : s.progress.phase = .inScript)
    (htitle : Script.isTitle (Line.ofText text) = false)
    (hheading : Script.isHeading (Line.ofText text) = false) :
    ∃ s', s.feed cfg text = (.ok (), s') ∧ s'.progress.phase = .inScript ∧
      HasTaken cfg m (body ++ [Line.ofText text]) s' := by
  cases hl : Line.ofText text with
  | title heading =>
      rw [hl] at htitle
      cases htitle
  | scene heading =>
      rw [hl] at hheading
      cases hheading
  | blank =>
      refine ⟨s, feed_blank hp hl, hp, h.of_other rfl ?_ ?_ rfl rfl rfl⟩
      · simp [Line.statement?]
      · simp only [Line.statement?, Option.bind_none, Option.toList_none, ite_self,
          List.append_nil]
        exact h.speakers
  | statement st =>
      refine ⟨s.addStatement st, feed_statement hp hl, ?_⟩
      cases hd : s.progress.draft with
      | none =>
          rw [addStatement_of_none hd]
          refine ⟨hp, h.of_other rfl ?_ ?_ rfl rfl rfl⟩
          · rw [hd]
            rfl
          · rw [hd, Option.isSome_none, if_neg Bool.false_ne_true, List.append_nil]
            exact h.speakers
      | some d =>
          have hprogress := progress_addStatement hd st
          refine ⟨?_, h.of_other rfl ?_ ?_ ?_ (sink_addStatement st s) ?_⟩
          · rw [hprogress]
            exact hp
          · rw [hprogress, hd]
            rfl
          · rw [hprogress, hd]
            simp only [Line.statement?, Option.bind_some, Option.isSome_some, if_true]
            cases st.speaker? with
            | none =>
                rw [Option.toList_none, List.append_nil]
                exact h.speakers
            | some speaker => exact Roster.names_getD_enter? h.speakers speaker
          · rw [hprogress]
          · rw [hprogress]

end HasTaken

/-! ## Many lines -/

/-- An invariant that each line of a body keeps, as long as all names are different, is kept by
any number of lines. -/
theorem exists_feedAll_of_step {σ : Type} [Sink σ] {cfg : Config}
    {Inv : List Line → Session σ → Prop}
    (hstep : ∀ {body s text}, Inv body s → s.progress.phase = .inScript →
      Script.isTitle (Line.ofText text) = false →
      (Script.sceneNames cfg (body ++ [Line.ofText text])).Nodup →
      ∃ s', s.feed cfg text = (.ok (), s') ∧ s'.progress.phase = .inScript ∧
        Inv (body ++ [Line.ofText text]) s')
    {body : List Line} {s : Session σ} (h : Inv body s) (hp : s.progress.phase = .inScript)
    (origin : Path) {more : List Text}
    (hmore : ∀ text ∈ more, Script.isTitle (Line.ofText text) = false)
    (hnew : (Script.sceneNames cfg (body ++ more.map Line.ofText)).Nodup)
    (rest : List (Except IoCause Text)) :
    ∃ s', s.feedAll cfg origin (more.map .ok ++ rest) = s'.feedAll cfg origin rest ∧
      s'.progress.phase = .inScript ∧ Inv (body ++ more.map Line.ofText) s' := by
  induction more generalizing body s with
  | nil => exact ⟨s, rfl, hp, by rwa [List.map_nil, List.append_nil]⟩
  | cons text more ih =>
      rw [List.forall_mem_cons] at hmore
      have hcons : body ++ (text :: more).map Line.ofText =
          body ++ [Line.ofText text] ++ more.map Line.ofText := by
        rw [List.map_cons, List.append_assoc, List.singleton_append]
      rw [hcons] at hnew ⊢
      have hfirst : (Script.sceneNames cfg (body ++ [Line.ofText text])).Nodup := by
        rw [Script.sceneNames_append, List.nodup_append] at hnew
        exact hnew.1
      obtain ⟨s₁, hfeed, hp₁, h₁⟩ := hstep h hp hmore.1 hfirst
      obtain ⟨s', hrest, hp', h'⟩ := ih h₁ hp₁ hmore.2 hnew
      refine ⟨s', ?_, hp', h'⟩
      rw [List.map_cons, List.cons_append,
        feedAll_cons_of_ok hfeed (isDone_eq_false hp₁ (by decide)), hrest]

theorem HasTaken.feed {cfg : Config} {m : Memory} {body : List Line} {s : Session Memory}
    {text : Text} (h : HasTaken cfg m body s) (hp : s.progress.phase = .inScript)
    (htitle : Script.isTitle (Line.ofText text) = false)
    (hnew : (Script.sceneNames cfg (body ++ [Line.ofText text])).Nodup) :
    ∃ s', s.feed cfg text = (.ok (), s') ∧ s'.progress.phase = .inScript ∧
      HasTaken cfg m (body ++ [Line.ofText text]) s' := by
  by_cases hheading : Script.isHeading (Line.ofText text) = false
  · exact h.feed_other hp htitle hheading
  · obtain ⟨heading, hl⟩ := Script.exists_scene_of_isHeading hheading
    rw [hl] at hnew ⊢
    exact h.feed_heading hp hl hnew

/-- Lines of the body are taken in one after the other, as long as all their names are
different. -/
theorem HasTaken.feedAll {cfg : Config} {m : Memory} {body : List Line} {s : Session Memory}
    (h : HasTaken cfg m body s) (hp : s.progress.phase = .inScript) (origin : Path)
    {more : List Text} (hmore : ∀ text ∈ more, Script.isTitle (Line.ofText text) = false)
    (hnew : (Script.sceneNames cfg (body ++ more.map Line.ofText)).Nodup)
    (rest : List (Except IoCause Text)) :
    ∃ s', s.feedAll cfg origin (more.map .ok ++ rest) = s'.feedAll cfg origin rest ∧
      s'.progress.phase = .inScript ∧ HasTaken cfg m (body ++ more.map Line.ofText) s' :=
  exists_feedAll_of_step HasTaken.feed h hp origin hmore hnew rest

end Session

end StoryScript
