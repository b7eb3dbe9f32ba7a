/-
# `StoryScript.Proofs.Compilation.Trace` — the log tells what is written

The log of a compilation that succeeds can be laid beside the script and beside the files that
are written, and the three agree:

    INFO   Found script entry point        once, and before everything else
    INFO   [SCENE] Day                     a heading of the body
    INFO      ---> Day                     its name, which the report lists
    DEBUG  New character: Bob              a speaker of the report, when first heard
    DEBUG  [Day] dialogue from Bob         a statement in the file of the scene
    DEBUG  [Day] pause                     and the next one
    INFO   [SCENE] !                       another heading
    WARN   Skipping scene '!': ...         which makes no name, and so nothing follows
    DEBUG  Script ends at heading 'Notes'
    INFO   Writing Transition.cs           the helpers
    INFO   Writing Dialog.cs

What is noted of one section is a block of the log (`Section.Logged`), and it grows with its
section.  The introductions are told apart from it, as they depend on the whole log so far:
whoever is heard is known by then, or is introduced right before (`Introduced`).
-/
import StoryScript.Proofs.Compilation.Whole
import StoryScript.Proofs.Text.Blank
import StoryScript.Program

namespace StoryScript

/-! ## Reading a log -/

namespace Event

/-- Who is introduced by an entry. -/
def introduced? : Event → Option Text
  | .newSpeaker speaker => some speaker
  | _ => none

/-- Who is heard by an entry. -/
def heard? : Event → Option Text
  | .spoken _ speaker => some speaker
  | _ => none

/-- An entry as it is read. -/
def entry (e : Event) : Severity × Text := (e.severity, e.message)

/-- What an entry says behind the words that it starts with, if it is of a severity and starts
with these words. -/
def told? (severity : Severity) (front : Text) (e : Event) : Option Text :=
  if e.severity = severity then e.message.dropPrefix? front else none

/-- What the entries of a severity that start with these words say behind them. -/
def told (severity : Severity) (front : Text) (log : List Event) : List Text :=
  log.filterMap (told? severity front)

theorem told_append (severity : Severity) (front : Text) (log more : List Event) :
    told severity front (log ++ more) = told severity front log ++ told severity front more :=
  List.filterMap_append

theorem told_eq_nil {severity : Severity} (h : severity ≠ .debug) (front : Text)
    {log : List Event} (hlog : ∀ e ∈ log, e.severity = .debug) : told severity front log = [] :=
  List.filterMap_eq_nil_iff.mpr fun e he => if_neg fun hsame => h (hsame.symm.trans (hlog e he))

theorem told_newSpeaker (log : List Event) :
    told .debug "New character: ".toList log = log.filterMap introduced? := by
  refine congrArg (List.filterMap · log) (funext fun e => ?_)
  cases e with
  | newSpeaker speaker => exact Text.dropPrefix?_append _ speaker
  | _ => rfl

theorem shows_debug (e : Event) : (Program.filterOf none true).1.shows e = true := by
  have hfilter : (Program.filterOf none true).1 = ⟨[⟨none, .debug⟩], none⟩ := by
    show LogFilter.ofDirectives [⟨none, .debug⟩] none = _
    rw [LogFilter.ofDirectives, if_neg (List.cons_ne_nil _ _), List.mergeSort_singleton]
  rw [hfilter]
  cases e <;> rfl

end Event

/-! ## Blocks -/

/-- What is noted of a statement. -/
def Statement.noted : Statement → Text
  | .say d => "dialogue from ".toList ++ d.speaker
  | .pause => "pause".toList
  | .comment _ => "comment".toList

/-- What is noted of a section: its heading, and then either that it is skipped, or its name
and an entry for each of its statements.  Introductions may come between these. -/
inductive Section.Logged (cfg : Config) (sec : Section) : List Event → Prop
  | skipped (h : sec.name cfg = []) :
    Logged cfg sec [.sceneHeading sec.heading, .sceneSkipped sec.heading]
  | live {entries : List Event} (h : sec.name cfg ≠ [])
    (hdebug : ∀ e ∈ entries, e.severity = .debug)
    (hentries : (entries.filter (·.introduced?.isNone)).map Event.entry =
      sec.statements.map fun st =>
        (.debug, "[".toList ++ sec.name cfg ++ "] ".toList ++ st.noted)) :
    Logged cfg sec (.sceneHeading sec.heading :: .sceneNamed (sec.name cfg) :: entries)

namespace Section

variable {cfg : Config} {sec : Section} {block entries : List Event}

/-- A line adds its entries to the block of its section: none, if the section is skipped. -/
theorem Logged.add (h : sec.Logged cfg block) {line : Line}
    (hskipped : sec.name cfg = [] → entries = [])
    (hdebug : ∀ e ∈ entries, e.severity = .debug)
    (hlive : sec.name cfg ≠ [] → (entries.filter (·.introduced?.isNone)).map Event.entry =
      line.statement?.toList.map fun st =>
        (.debug, "[".toList ++ sec.name cfg ++ "] ".toList ++ st.noted)) :
    (sec.add line).Logged cfg (block ++ entries) := by
  cases h with
  | skipped hname =>
      rw [hskipped hname, List.append_nil]
      exact .skipped hname
  | @live before hname hbefore hentries =>
      show Logged cfg (sec.add line)
        (.sceneHeading sec.heading :: .sceneNamed (sec.name cfg) :: (before ++ entries))
      refine .live hname ?_ ?_
      · intro e he
        rcases List.mem_append.mp he with he | he
        · exact hbefore e he
        · exact hdebug e he
      · rw [List.filter_append, List.map_append, hentries, hlive hname, statements_add,
          List.map_append]
        rfl

theorem Logged.told_eq (h : sec.Logged cfg block) {severity : Severity} (hs : severity ≠ .debug)
    (front : Text) : Event.told severity front block =
      Event.told severity front [.sceneHeading sec.heading, Event.ofHeading cfg sec.heading] := by
  cases h with
  | skipped hname =>
      have hof : Event.ofHeading cfg sec.heading = .sceneSkipped sec.heading := if_pos hname
      rw [hof]
  | @live entries hname hdebug hentries =>
      have hof : Event.ofHeading cfg sec.heading = .sceneNamed (sec.name cfg) := if_neg hname
      rw [hof, ← List.singleton_append (l := entries), ← List.cons_append, Event.told_append,
        Event.told_eq_nil hs front hdebug, List.append_nil]

end Section

theorem Script.told_flatten {cfg : Config} {secs : List Section} {blocks : List (List Event)}
    (h : List.Forall₂ (Section.Logged cfg) secs blocks) {severity : Severity}
    (hs : severity ≠ .debug) (front : Text) :
    Event.told severity front blocks.flatten = secs.flatMap fun sec =>
      Event.told severity front [.sceneHeading sec.heading, Event.ofHeading cfg sec.heading] := by
  induction h with
  | nil => rfl
  | cons hsec _ ih =>
      rw [List.flatten_cons, Event.told_append, hsec.told_eq hs, ih, List.flatMap_cons]

/-! ## Introductions -/

/-- Everyone in `known`, and no one else, has been heard in the log and introduced in it: each
once and in this order, right before the first entry that hears them. -/
inductive Introduced : List Text → List Event → Prop
  | nil : Introduced [] []
  | other {known : List Text} {log : List Event} {e : Event} (h : Introduced known log)
    (hintroduced : e.introduced? = none) (hheard : e.heard? = none) :
    Introduced known (log ++ [e])
  | first {known : List Text} {log : List Event} {speaker : Text} (h : Introduced known log)
    (hnew : speaker ∉ known) (scene : Text) :
    Introduced (known ++ [speaker]) (log ++ [.newSpeaker speaker, .spoken scene speaker])
  | again {known : List Text} {log : List Event} {speaker : Text} (h : Introduced known log)
    (hknown : speaker ∈ known) (scene : Text) : Introduced known (log ++ [.spoken scene speaker])

theorem concat_eq_append_cons_cases {α : Type} {log before after : List α} {e x : α}
    (h : log ++ [e] = before ++ x :: after) :
    (log = before ∧ e = x ∧ after = []) ∨
      ∃ rest, after = rest ++ [e] ∧ log = before ++ x :: rest := by
  rcases List.eq_nil_or_concat after with rfl | ⟨rest, last, rfl⟩
  · obtain ⟨hfront, hlast⟩ := List.append_inj' h rfl
    exact Or.inl ⟨hfront, (List.cons.inj hlast).1, rfl⟩
  · rw [List.concat_eq_append, ← List.cons_append, ← List.append_assoc] at h
    obtain ⟨rfl, hlast⟩ := List.append_inj' h rfl
    rw [List.concat_eq_append, (List.cons.inj hlast).1]
    exact Or.inr ⟨rest, rfl, rfl⟩

namespace Introduced

variable {known : List Text} {log : List Event}

theorem filterMap_introduced? (h : Introduced known log) :
    log.filterMap Event.introduced? = known := by
  induction h with
  | nil => rfl
  | other _ hintroduced _ ih =>
      rw [List.filterMap_append, ih, List.filterMap_cons_none hintroduced]
      exact List.append_nil _
  | first _ _ scene ih =>
      rw [List.filterMap_append, ih]
      rfl
  | again _ _ scene ih =>
      rw [List.filterMap_append, ih]
      exact List.append_nil _

theorem filterMap_heard?_subset (h : Introduced known log) :
    log.filterMap Event.heard? ⊆ known := by
  induction h with
  | nil => exact List.Subset.refl _
  | other _ _ hheard ih =>
      rw [List.filterMap_append, List.filterMap_cons_none hheard]
      exact List.append_subset.mpr ⟨ih, List.nil_subset _⟩
  | first _ _ scene ih =>
      rw [List.filterMap_append]
      exact List.append_subset.mpr ⟨List.subset_append_of_subset_left _ ih,
        List.subset_append_right _ _⟩
  | again _ hknown scene ih =>
      rw [List.filterMap_append]
      exact List.append_subset.mpr ⟨ih, List.cons_subset.mpr ⟨hknown, List.nil_subset _⟩⟩

theorem spoken_not_mem (h : Introduced known log) {speaker : Text} (hnew : speaker ∉ known)
    (scene : Text) : .spoken scene speaker ∉ log :=
  fun hmem => hnew (h.filterMap_heard?_subset (List.mem_filterMap.mpr ⟨_, hmem, rfl⟩))

/-- An introduction is followed by the entry that hears whom it introduces, and no entry before
it does. -/
theorem followed (h : Introduced known log) {before after : List Event} {speaker : Text}
    (hlog : log = before ++ .newSpeaker speaker :: after) :
    (∃ scene rest, after = .spoken scene speaker :: rest) ∧
      ∀ scene, .spoken scene speaker ∉ before := by
  induction h generalizing before after with
  | nil => exact absurd hlog.symm (List.append_ne_nil_of_right_ne_nil _ (List.cons_ne_nil _ _))
  | other _ hintroduced _ ih =>
      rcases concat_eq_append_cons_cases hlog with ⟨-, rfl, -⟩ | ⟨rest, rfl, hfront⟩
      · cases hintroduced
      · obtain ⟨⟨scene, more, rfl⟩, hbefore⟩ := ih hfront
        exact ⟨⟨scene, _, rfl⟩, hbefore⟩
  | again _ _ _ ih =>
      rcases concat_eq_append_cons_cases hlog with ⟨-, hlast, -⟩ | ⟨rest, rfl, hfront⟩
      · cases hlast
      · obtain ⟨⟨scene, more, rfl⟩, hbefore⟩ := ih hfront
        exact ⟨⟨scene, _, rfl⟩, hbefore⟩
  | @first known log other hlogged hnew scene ih =>
      have hsplit : log ++ [.newSpeaker other] ++ [.spoken scene other] =
          before ++ .newSpeaker speaker :: after := by
        rw [← hlog, List.append_assoc]
        rfl
      rcases concat_eq_append_cons_cases hsplit with ⟨-, hlast, -⟩ | ⟨rest, rfl, hfront⟩
      · cases hlast
      · -- The introduction is the one just made, or an earlier one.
        rcases concat_eq_append_cons_cases hfront with ⟨rfl, hsame, rfl⟩ | ⟨rest, rfl, hearlier⟩
        · cases hsame
          exact ⟨⟨scene, [], rfl⟩, hlogged.spoken_not_mem hnew⟩
        · obtain ⟨⟨scene, more, rfl⟩, hbefore⟩ := ih hearlier
          exact ⟨⟨scene, _, rfl⟩, hbefore⟩

end Introduced

/-! ## What each line notes -/

theorem exists_of_forall₂_concat {α β : Type} {R : α → β → Prop} {as : List α} {a : α}
    {cs : List β} (h : List.Forall₂ R (as ++ [a]) cs) :
    ∃ bs b, cs = bs ++ [b] ∧ List.Forall₂ R as bs ∧ R a b := by
  have hreverse := List.forall₂_reverse_iff.mpr h
  rw [List.reverse_append] at hreverse
  obtain ⟨b, bs, hb, hbs, hcs⟩ := List.forall₂_cons_left_iff.mp hreverse
  refine ⟨bs.reverse, b, ?_, ?_, hb⟩
  · rw [List.reverse_eq_iff.mp hcs, List.reverse_cons]
  · rw [← List.forall₂_reverse_iff, List.reverse_reverse]
    exact hbs

namespace Session

theorem entry_traceOf (scene : Text) (st : Statement) : (traceOf scene st).entry =
    (.debug, "[".toList ++ scene ++ "] ".toList ++ st.noted) := by
  rw [List.append_assoc, List.append_assoc]
  cases st with
  | say d =>
      show (Severity.debug, "[".toList ++ scene ++ "] dialogue from ".toList ++ d.speaker) = _
      rw [List.append_assoc, List.append_assoc]
      rfl
  | pause =>
      show (Severity.debug, "[".toList ++ scene ++ "] pause".toList) = _
      rw [List.append_assoc]
      rfl
  | comment _ =>
      show (Severity.debug, "[".toList ++ scene ++ "] comment".toList) = _
      rw [List.append_assoc]
      rfl

theorem exists_log_addStatement {s : Session Memory} {d : Draft} (hd : s.progress.draft = some d)
    (st : Statement) :
    ∃ entries : List Event, (s.addStatement st).log = s.log ++ entries ∧
      (∀ e ∈ entries, e.severity = .debug) ∧
      (entries.filter (·.introduced?.isNone)).map Event.entry =
        [(.debug, "[".toList ++ d.name ++ "] ".toList ++ st.noted)] ∧
      (Introduced s.progress.speakers.names s.log →
        Introduced (s.addStatement st).progress.speakers.names (s.log ++ entries)) := by
  rw [addStatement_of_some hd]
  cases st with
  | say dialogue =>
      simp only [Statement.speaker?, Option.elim_some, note]
      have hspoken := entry_traceOf d.name (.say dialogue)
      by_cases hknown : dialogue.speaker ∈ s.progress.speakers
      · rw [hear_of_mem hknown]
        refine ⟨_, rfl, ?_, ?_, fun h => .again h hknown d.name⟩
        · exact List.forall_mem_singleton.mpr rfl
        · exact congrArg (· :: []) hspoken
      · obtain ⟨speakers, hnames, hhear⟩ := hear_of_not_mem hknown
        rw [hhear]
        refine ⟨_, List.append_assoc _ _ _, ?_, congrArg (· :: []) hspoken, ?_⟩
        · exact List.forall_mem_cons.mpr ⟨rfl, List.forall_mem_singleton.mpr rfl⟩
        · intro h
          show Introduced speakers.names _
          rw [hnames]
          exact .first h hknown d.name
  | pause =>
      exact ⟨_, rfl, List.forall_mem_singleton.mpr rfl,
        congrArg (· :: []) (entry_traceOf d.name .pause), fun h => .other h rfl rfl⟩
  | comment text =>
      exact ⟨_, rfl, List.forall_mem_singleton.mpr rfl,
        congrArg (· :: []) (entry_traceOf d.name (.comment text)), fun h => .other h rfl rfl⟩

/-- A session that has taken in the lines of `body`, and noted them. -/
structure HasTraced (cfg : Config) (m : Memory) (body : List Line) (s : Session Memory) :
    Prop where
  taken : HasTaken cfg m body s
  /-- A block is noted for every section. -/
  blocks : ∃ blocks, s.log = .entryFound :: blocks.flatten ∧
    List.Forall₂ (Section.Logged cfg) (Script.sections body) blocks
  /-- Whoever is known has been introduced. -/
  introduced : Introduced s.progress.speakers.names s.log

namespace HasTraced

variable {cfg : Config} {m : Memory} {body : List Line} {s : Session Memory} {text : Text}

theorem entered (cfg : Config) (m : Memory) : HasTraced cfg m [] (entered m) where
  taken := .entered cfg m
  blocks := ⟨[], rfl, .nil⟩
  introduced := .other .nil rfl rfl

theorem of_heading (h : HasTraced cfg m body s) {s' : Session Memory} {heading : Text}
    (htaken : HasTaken cfg m (body ++ [.scene heading]) s')
    (hlog : s'.log = s.log ++ [.sceneHeading heading, Event.ofHeading cfg heading]) :
    HasTraced cfg m (body ++ [.scene heading]) s' where
  taken := htaken
  blocks := by
    obtain ⟨blocks, hblocks, hlogged⟩ := h.blocks
    have hblock : Section.Logged cfg ⟨heading, []⟩
        [.sceneHeading heading, Event.ofHeading cfg heading] := by
      unfold Event.ofHeading
      split
      · rename_i hname
        exact .skipped hname
      · rename_i hname
        exact .live hname nofun rfl
    refine ⟨blocks ++ [[.sceneHeading heading, Event.ofHeading cfg heading]], ?_, ?_⟩
    · rw [hlog, hblocks, List.flatten_append, List.flatten_singleton, List.cons_append]
    · rw [Script.sections_snoc_heading]
      exact List.rel_append hlogged (.cons hblock .nil)
  introduced := by
    have hspeakers : s'.progress.speakers.names = s.progress.speakers.names := by
      rw [htaken.speakers, h.taken.speakers]
      exact congrArg List.eraseDups (Script.heard_snoc_heading cfg body heading)
    have hnoted : Introduced s.progress.speakers.names (s.log ++ [.sceneHeading heading]) :=
      h.introduced.other rfl rfl
    rw [hspeakers, hlog, ← List.singleton_append (l := [Event.ofHeading cfg heading]),
      ← List.append_assoc]
    unfold Event.ofHeading
    split
    · exact hnoted.other rfl rfl
    · exact hnoted.other rfl rfl

theorem of_other (h : HasTraced cfg m body s) {s' : Session Memory} {line : Line}
    (hline : Script.isHeading line = false) (htaken : HasTaken cfg m (body ++ [line]) s')
    {entries : List Event} (hlog : s'.log = s.log ++ entries)
    (hnone : s.progress.draft = none → entries = [])
    (hdebug : ∀ e ∈ entries, e.severity = .debug)
    (hsome : ∀ d, s.progress.draft = some d →
      (entries.filter (·.introduced?.isNone)).map Event.entry = line.statement?.toList.map
        fun st => (.debug, "[".toList ++ d.name ++ "] ".toList ++ st.noted))
    (hintroduced : Introduced s'.progress.speakers.names s'.log) :
    HasTraced cfg m (body ++ [line]) s' where
  taken := htaken
  blocks := by
    obtain ⟨blocks, hblocks, hlogged⟩ := h.blocks
    have hdraft := h.taken.draft
    rcases Script.sections_snoc_cases hline body with ⟨hbody, hsnoc⟩ | ⟨init, last, hbody, hsnoc⟩
    · rw [Script.openDraft?, hbody] at hdraft
      rw [hnone hdraft, List.append_nil] at hlog
      rw [hbody] at hlogged
      rw [hlog, hsnoc]
      exact ⟨blocks, hblocks, hlogged⟩
    · rw [Script.openDraft?_of_concat hbody] at hdraft
      rw [hbody] at hlogged
      obtain ⟨front, block, rfl, hfront, hblock⟩ := exists_of_forall₂_concat hlogged
      refine ⟨front ++ [block ++ entries], ?_, ?_⟩
      · rw [hlog, hblocks]
        simp only [List.flatten_append, List.flatten_singleton, List.append_assoc,
          List.cons_append]
      · rw [hsnoc]
        refine List.rel_append hfront (.cons (hblock.add ?_ hdebug ?_) .nil)
        · intro hname
          rw [Section.isLive, hname] at hdraft
          exact hnone hdraft
        · intro hname
          rw [Section.isLive, if_pos (bne_iff_ne.mpr hname)] at hdraft
          exact hsome _ hdraft
  introduced := hintroduced

theorem feed (h : HasTraced cfg m body s) (hp : s.progress.phase = .inScript)
    (htitle : Script.isTitle (Line.ofText text) = false)
    (hnew : (Script.sceneNames cfg (body ++ [Line.ofText text])).Nodup) :
    ∃ s', s.feed cfg text = (.ok (), s') ∧ s'.progress.phase = .inScript ∧
      HasTraced cfg m (body ++ [Line.ofText text]) s' := by
  obtain ⟨s', hfeed, hp', htaken⟩ := h.taken.feed hp htitle hnew
  refine ⟨s', hfeed, hp', ?_⟩
  cases hl : Line.ofText text with
  | title heading =>
      rw [hl] at htitle
      cases htitle
  | scene heading =>
      rw [hl] at htaken
      rw [feed_scene hp hl, openScene_eq] at hfeed
      refine h.of_heading htaken ?_
      have hlog := log_beginScene cfg heading ((s.note (.sceneHeading heading)).closed cfg)
      rw [hfeed] at hlog
      exact hlog.trans (List.append_assoc _ _ _)
  | blank =>
      rw [hl] at htaken
      rw [feed_blank hp hl] at hfeed
      cases hfeed
      exact h.of_other rfl htaken (List.append_nil _).symm (fun _ => rfl) nofun (fun _ _ => rfl)
        h.introduced
  | statement st =>
      rw [hl] at htaken
      rw [feed_statement hp hl] at hfeed
      cases hfeed
      cases hd : s.progress.draft with
      | none =>
          rw [addStatement_of_none hd] at htaken ⊢
          refine h.of_other rfl htaken (List.append_nil _).symm (fun _ => rfl) nofun ?_
            h.introduced
          intro d hsome
          rw [hd] at hsome
          cases hsome
      | some d =>
          obtain ⟨entries, hlog, hdebug, hentries, hintroduced⟩ := exists_log_addStatement hd st
          refine h.of_other rfl htaken hlog ?_ hdebug ?_ (hlog ▸ hintroduced h.introduced)
          · intro hnone
            rw [hd] at hnone
            cases hnone
          · intro other hsome
            rw [hd] at hsome
            cases hsome
            exact hentries

end HasTraced

end Session

/-! ## The whole log -/

namespace Event

variable (cfg : Config) (heading : Text)

theorem told_heading_ofHeading :
    told .info "[SCENE] ".toList [.sceneHeading heading, ofHeading cfg heading] = [heading] := by
  have hheading : told? .info "[SCENE] ".toList (.sceneHeading heading) = some heading :=
    Text.dropPrefix?_append _ heading
  rw [told, List.filterMap_cons_some hheading]
  unfold ofHeading
  split <;> rfl

theorem told_name_ofHeading :
    told .info "   ---> ".toList [.sceneHeading heading, ofHeading cfg heading] =
      if Scene.name cfg.sceneToken heading != [] then [Scene.name cfg.sceneToken heading]
      else [] := by
  unfold ofHeading
  by_cases hname : Scene.name cfg.sceneToken heading = []
  · rw [if_pos hname, hname]
    rfl
  · have hnamed : told? .info "   ---> ".toList (.sceneNamed (Scene.name cfg.sceneToken heading)) =
        some (Scene.name cfg.sceneToken heading) := Text.dropPrefix?_append _ _
    rw [if_neg hname, if_pos (bne_iff_ne.mpr hname)]
    exact List.filterMap_cons_some hnamed

theorem told_warn_ofHeading :
    told .warn [] [.sceneHeading heading, ofHeading cfg heading] =
      if Scene.name cfg.sceneToken heading == [] then ["Skipping scene '".toList ++ heading ++
        "': heading has no usable characters".toList]
      else [] := by
  unfold ofHeading
  by_cases hname : Scene.name cfg.sceneToken heading = []
  · have hskipped : told? .warn [] (.sceneSkipped heading) = some ("Skipping scene '".toList ++
        heading ++ "': heading has no usable characters".toList) := Text.dropPrefix?_append [] _
    rw [if_pos hname, if_pos (beq_iff_eq.mpr hname)]
    exact List.filterMap_cons_some hskipped
  · rw [if_neg hname, if_neg (mt beq_iff_eq.mp hname)]
    rfl

theorem told_found_ofHeading :
    told .info "Found script entry point".toList
      [.sceneHeading heading, ofHeading cfg heading] = [] := by
  unfold ofHeading
  split <;> rfl

theorem told_writing_ofHeading :
    told .info "Writing ".toList [.sceneHeading heading, ofHeading cfg heading] = [] := by
  unfold ofHeading
  split <;> rfl

theorem told_writing (paths : List Path) :
    told .info "Writing ".toList (paths.map Event.writing) = paths.map Path.text := by
  rw [told, List.filterMap_map, ← List.filterMap_eq_map]
  refine congrArg (List.filterMap · paths) (funext fun path => ?_)
  exact Text.dropPrefix?_append _ path.text

end Event

theorem flatMap_ite_eq {α β : Type} (p : α → Bool) (f : α → β) (l : List α) :
    (l.flatMap fun a => if p a then [f a] else []) = (l.filter p).map f := by
  induction l with
  | nil => rfl
  | cons a rest ih =>
      rw [List.flatMap_cons, ih, List.filter_cons]
      split <;> rfl

section

variable {cfg : Config} {text : Text} {m : Memory} {r : Report} {s : Session Memory}

/-- The log of a success is the entry, a block for every section, the title that ends the body if
there is one, and the two helpers. -/
theorem exists_log_of_compileText_eq_ok (hok : compileText cfg text m = (.ok r, s)) :
    ∃ body blocks ending?, Script.body? cfg (Script.lines text) = some body ∧
      s.log = .entryFound :: (blocks.flatten ++ (Option.map Event.scriptEnds ending?).toList ++
        [.writing cfg.transitionFile, .writing cfg.dialogFile]) ∧
      List.Forall₂ (Section.Logged cfg) (Script.sections body) blocks ∧
      Introduced (Script.speakers cfg body) s.log := by
  obtain ⟨body, hbody, hnames⟩ := exists_body_of_compileText_eq_ok hok
  obtain ⟨t, ending?, ht, hp, hfed⟩ := Session.exists_feedAll_of_nodup Session.HasTraced.feed
    (Session.HasTraced.entered cfg m) unnamedOrigin hbody hnames
  obtain ⟨blocks, hblocks, hlogged⟩ := ht.blocks
  have hlog : s.log = t.log ++ (ending?.map Event.scriptEnds).toList ++
      [.writing cfg.transitionFile, .writing cfg.dialogFile] := by
    rw [compileText_eq, hfed, Session.finishAfter,
      Session.finish_eq_writeHelpers (Session.phase_endedBy_ne hp ending?)] at hok
    have hwritten := Session.log_writeHelpers cfg ((t.endedBy ending?).closed cfg)
    rw [hok] at hwritten
    rw [hwritten, ← Session.log_endedBy]
    rfl
  refine ⟨body, blocks, ending?, hbody, ?_, hlogged, ?_⟩
  · rw [hlog, hblocks, List.append_assoc, List.append_assoc, List.cons_append]
  · have hended : Introduced (Script.speakers cfg body)
        (t.log ++ (ending?.map Event.scriptEnds).toList) := by
      have hbefore := ht.introduced
      rw [ht.taken.speakers] at hbefore
      cases ending? with
      | none =>
          rw [Option.map_none, Option.toList_none, List.append_nil]
          exact hbefore
      | some heading => exact hbefore.other rfl rfl
    have hhelpers := (hended.other (e := .writing cfg.transitionFile) rfl rfl).other
      (e := .writing cfg.dialogFile) rfl rfl
    rw [hlog]
    rw [List.append_assoc _ [_] [_]] at hhelpers
    exact hhelpers

/-- Above debugging the log tells the entry, for each section its heading and what comes of it,
and the two helpers. -/
theorem told_log {secs : List Section} {blocks : List (List Event)} {ending? : Option Text}
    (hlog : s.log = .entryFound :: (blocks.flatten ++ (ending?.map Event.scriptEnds).toList ++
      [.writing cfg.transitionFile, .writing cfg.dialogFile]))
    (hlogged : List.Forall₂ (Section.Logged cfg) secs blocks) (severity : Severity)
    (hs : severity ≠ .debug) (front : Text) :
    Event.told severity front s.log = Event.told severity front [.entryFound] ++
      (secs.flatMap fun sec => Event.told severity front
        [.sceneHeading sec.heading, Event.ofHeading cfg sec.heading]) ++
      Event.told severity front [.writing cfg.transitionFile, .writing cfg.dialogFile] := by
  have hending : Event.told severity front (ending?.map Event.scriptEnds).toList = [] := by
    refine Event.told_eq_nil hs front ?_
    intro e he
    obtain ⟨heading, -, rfl⟩ := Option.map_eq_some_iff.mp (Option.mem_toList.mp he)
    rfl
  rw [hlog, ← List.singleton_append, Event.told_append, Event.told_append, Event.told_append,
    hending, List.append_nil, Script.told_flatten hlogged hs, List.append_assoc]

end

/-- **The log of a compilation is a trace of it.**  If a script is compiled, its log for
debugging starts with the entry, which is found once.  Then there is a block for every section,
in order: the heading as it stands, and either a warning that it makes no name, or the name and
an entry for each statement of the file that the scene is written to.  In between, whoever the
report lists as a speaker is introduced, right before the first entry that hears them.  At the
end are the two helpers, behind the title that ends the script if there is one.

So the log tells the headings of the body and the scenes and speakers of the report. -/
theorem log_of_compileText (cfg : Config) (text : Text) (m : Memory) (r : Report)
    (s : Session Memory) (hok : compileText cfg text m = (.ok r, s)) :
    ∃ body blocks ending?, Script.body? cfg (Script.lines text) = some body ∧
      s.log = .entryFound :: (blocks.flatten ++ (Option.map Event.scriptEnds ending?).toList ++
        [.writing cfg.transitionFile, .writing cfg.dialogFile]) ∧
      List.Forall₂ (Section.Logged cfg) (Script.sections body) blocks ∧
      s.sink.files = m.files ++ (Script.liveSections cfg body).map (fun sec =>
          (cfg.scenePath (sec.name cfg), Code.sceneClass (sec.name cfg) sec.statements)) ++
        [(cfg.transitionFile, Code.transitionClass),
          (cfg.dialogFile, Code.dialogClass r.speakers)] ∧
      (∀ before speaker after, s.log = before ++ .newSpeaker speaker :: after →
        (∃ scene rest, after = .spoken scene speaker :: rest) ∧
          ∀ scene, .spoken scene speaker ∉ before) ∧
      Event.told .info "Found script entry point".toList s.log = [[]] ∧
      Event.told .info "[SCENE] ".toList s.log = body.filterMap Line.heading? ∧
      Event.told .info "   ---> ".toList s.log = r.scenes ∧
      Event.told .warn [] s.log = ((body.filterMap Line.heading?).filter
          (Scene.name cfg.sceneToken · == [])).map (fun heading => "Skipping scene '".toList ++
        heading ++ "': heading has no usable characters".toList) ∧
      Event.told .debug "New character: ".toList s.log = r.speakers ∧
      Event.told .info "Writing ".toList s.log =
        [cfg.transitionFile.text, cfg.dialogFile.text] ∧
      s.log.filter (Program.filterOf none true).1.shows = s.log := by
  obtain ⟨body, blocks, ending?, hbody, hlog, hlogged, hintroduced⟩ :=
    exists_log_of_compileText_eq_ok hok
  obtain ⟨other, hother, rfl, hfiles⟩ := exists_files_of_compileText_eq_ok hok
  obtain rfl : body = other := Option.some.inj (hbody.symm.trans hother)
  have hinfo := told_log hlog hlogged .info nofun
  refine ⟨body, blocks, ending?, hbody, hlog, hlogged, hfiles, ?_, ?_, ?_, ?_, ?_, ?_, ?_, ?_⟩
  · intro before speaker after hsplit
    exact hintroduced.followed hsplit
  · rw [hinfo, List.flatMap_eq_nil_iff.mpr fun sec _ =>
      Event.told_found_ofHeading cfg sec.heading]
    rfl
  · rw [hinfo]
    simp only [Event.told_heading_ofHeading]
    rw [← Script.map_heading_sections, List.map_eq_flatMap]
    exact List.append_nil _
  · rw [hinfo]
    simp only [Event.told_name_ofHeading]
    rw [flatMap_ite_eq, ← Script.map_name_liveSections]
    exact List.append_nil _
  · rw [told_log hlog hlogged .warn nofun]
    simp only [Event.told_warn_ofHeading]
    rw [flatMap_ite_eq, ← Script.map_heading_sections, List.filter_map, List.map_map]
    exact List.append_nil _
  · rw [Event.told_newSpeaker]
    exact hintroduced.filterMap_introduced?
  · rw [hinfo, List.flatMap_eq_nil_iff.mpr fun sec _ =>
      Event.told_writing_ofHeading cfg sec.heading]
    exact Event.told_writing [cfg.transitionFile, cfg.dialogFile]
  · exact List.filter_eq_self.mpr fun e _ => Event.shows_debug e

/-- A section that is skipped, a speaker who is heard again, and a title that ends the script. -/
theorem log_of_compileText_three_sections :
    let text := ("# Script\n## Day\nBob: Hi.\n---\n## !\nEve: Hi.\n## Night\nBob: Bye.\n" ++
      "Ann: Bye.\n# Notes\nEve: Hi.\n").toList
    ∃ r s, compileText {} text ({} : Memory) = (.ok r, s) ∧
      r.scenes = ["Day".toList, "Night".toList] ∧ r.speakers = ["Bob".toList, "Ann".toList] ∧
      Event.told .info "[SCENE] ".toList s.log = ["Day".toList, ['!'], "Night".toList] ∧
      Event.told .info "   ---> ".toList s.log = r.scenes ∧
      Event.told .debug "New character: ".toList s.log = r.speakers := by
  intro text
  let r : Report := ⟨["Day".toList, "Night".toList], ["Bob".toList, "Ann".toList],
    ["Scenes/Day.cs", "Scenes/Night.cs", "Transition.cs", "Dialog.cs"].map fun path =>
      ⟨path.toList⟩⟩
  let s := (compileText {} text ({} : Memory)).2
  have hok : compileText {} text ({} : Memory) = (.ok r, s) := rfl
  obtain ⟨body, -, -, hbody, -, -, -, -, -, hheadings, hscenes, -, hspeakers, -⟩ :=
    log_of_compileText {} text {} r s hok
  refine ⟨r, s, hok, rfl, rfl, ?_, hscenes, hspeakers⟩
  rw [hheadings, ← Option.some.inj hbody]
  rfl

end StoryScript
