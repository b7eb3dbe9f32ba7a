/-
# `StoryScript.Proofs.Compilation.Whole` — what a compilation of a whole script comes to

For every script and all settings, compiling in one pass agrees with the outline of
the script:

    the outline                            the compilation

    no entry                               missing entry point, nothing written
    a body, all scene names different      the summary, all files
    a body, a scene name comes again       duplicate scene, the files before it

Nothing else happens (`compileText_fails_iff`), and in the second case the files and
the summary are those that the outline tells (`compileText_of_distinct`): for each live
section its class, then the two helpers.
-/
import Mathlib.Data.List.Induction
import StoryScript.Proofs.Compilation.Course

namespace StoryScript

namespace Script

/-- The text at position `j` is the first that has come before. -/
def FirstRepeat (names : List Text) (j : Nat) (name : Text) : Prop :=
  names[j]? = some name ∧ name ∈ names.take j ∧ (names.take j).Nodup

/-- The ways in which a script cannot be compiled, with the files that are left. -/
inductive Fault (cfg : Config) (script : List Line) : Failure → List (Path × Text) → Prop
  /-- No title starts the script. -/
  | unstarted : (∀ line ∈ script, isEntry cfg line = false) →
      Fault cfg script (.missingEntryPoint cfg.entryPoint) []
  /-- A heading of the body makes a name that has come before; the live sections before
  that heading are whole. -/
  | repeated {body : List Line} {j : Nat} {name : Text} : body? cfg script = some body →
      FirstRepeat (sceneNames cfg body) j name →
      Fault cfg script (.duplicateScene name) (((liveSections cfg body).take j).map (·.file cfg))

theorem exists_firstRepeat_of_not_nodup {names : List Text} (h : ¬ names.Nodup) :
    ∃ j name, FirstRepeat names j name := by
  induction names using List.reverseRecOn with
  | nil => exact absurd List.nodup_nil h
  | append_singleton names name ih =>
      by_cases hnames : names.Nodup
      · have hmem : name ∈ names := by
          by_contra hmem
          refine h (List.nodup_append.mpr ⟨hnames, by simp, ?_⟩)
          intro a ha b hb hab
          rw [List.mem_singleton.mp hb] at hab
          exact hmem (hab ▸ ha)
        refine ⟨names.length, name, ?_, ?_, ?_⟩
        · rw [List.getElem?_concat_length]
        · rwa [List.take_left]
        · rwa [List.take_left]
      · obtain ⟨j, other, hj, hmem, hnodup⟩ := ih hnames
        have hlt : j < names.length := (List.getElem?_eq_some_iff.mp hj).1
        refine ⟨j, other, ?_, ?_, ?_⟩
        · rwa [List.getElem?_append_left hlt]
        · rwa [List.take_append_of_le_length hlt.le]
        · rwa [List.take_append_of_le_length hlt.le]

theorem FirstRepeat.eq_append {names : List Text} {j : Nat} {name : Text}
    (h : FirstRepeat names j name) : names = names.take j ++ name :: names.drop (j + 1) := by
  obtain ⟨hlt, hget⟩ := List.getElem?_eq_some_iff.mp h.1
  rw [← hget, List.getElem_cons_drop, List.take_append_drop]

/-- The first repeat comes from a heading of the body.  The lines before it make all the
names before, and hold the live sections before. -/
theorem FirstRepeat.exists_heading {cfg : Config} {body : List Line} {j : Nat} {name : Text}
    (h : FirstRepeat (sceneNames cfg body) j name) :
    ∃ front heading back, body = front ++ .scene heading :: back ∧
      Scene.name cfg.sceneToken heading = name ∧ name ≠ [] ∧ name ∈ sceneNames cfg front ∧
      (sceneNames cfg front).Nodup ∧ (liveSections cfg body).take j = liveSections cfg front := by
  obtain ⟨front, heading, back, hbody, hfront, hname, hne⟩ :=
    exists_scene_of_sceneNames h.eq_append
  refine ⟨front, heading, back, hbody, hname, hne, ?_, ?_, ?_⟩
  · rw [hfront]
    exact h.2.1
  · rw [hfront]
    exact h.2.2
  · have hlt : j < (sceneNames cfg body).length := (List.getElem?_eq_some_iff.mp h.1).1
    have hlen : (liveSections cfg front).length = j := by
      rw [← List.length_map (f := (·.name cfg)), map_name_liveSections, hfront,
        List.length_take_of_le hlt.le]
    rw [hbody, liveSections, sections_append_heading, List.filter_append]
    exact List.take_left' hlen

/-- A script has a fault, or it has a body whose names are all different. -/
theorem exists_fault_or_nodup (cfg : Config) (script : List Line) :
    (∃ f written, Fault cfg script f written) ∨
      ∃ body, body? cfg script = some body ∧ (sceneNames cfg body).Nodup := by
  cases hbody : body? cfg script with
  | none => exact Or.inl ⟨_, _, .unstarted (body?_eq_none_iff.mp hbody)⟩
  | some body =>
      by_cases hnames : (sceneNames cfg body).Nodup
      · exact Or.inr ⟨body, rfl, hnames⟩
      · obtain ⟨j, name, hrepeat⟩ := exists_firstRepeat_of_not_nodup hnames
        exact Or.inl ⟨_, _, .repeated hbody hrepeat⟩

/-! ## Reading a text -/

theorem unmarked_lines_ofText (t : Text) :
    Source.unmarked (Source.ofText t).lines = (texts t).map .ok := by
  rw [Source.lines_ofText, texts]
  cases Text.lines t <;> rfl

theorem exists_texts_of_body? {cfg : Config} {texts : List Text} {body : List Line}
    (h : body? cfg (texts.map Line.ofText) = some body) :
    ∃ front entry inner back heading, texts = front ++ entry :: (inner ++ back) ∧
      (∀ text ∈ front, isEntry cfg (Line.ofText text) = false) ∧
      Line.ofText entry = .title heading ∧ cfg.isEntryPoint heading = true ∧
      inner.map Line.ofText = body ∧
      (∀ text ∈ inner, isTitle (Line.ofText text) = false) ∧
      ∀ text ∈ back.head?, isTitle (Line.ofText text) = true := by
  obtain ⟨front, heading, back, hscript, hfront, hentry, hbody, hback⟩ :=
    exists_split_of_body? h
  obtain ⟨fronts, rest, rfl, rfl, hrest⟩ := List.map_eq_append_iff.mp hscript
  obtain ⟨entry, inners, rfl, hheading, hinners⟩ := List.map_eq_cons_iff.mp hrest
  obtain ⟨inner, backs, rfl, rfl, rfl⟩ := List.map_eq_append_iff.mp hinners
  refine ⟨fronts, entry, inner, backs, heading, rfl, ?_, hheading, hentry, rfl, ?_, ?_⟩
  · exact fun text htext => hfront _ (List.mem_map_of_mem htext)
  · exact fun text htext => hbody _ (List.mem_map_of_mem htext)
  · intro text htext
    refine hback _ ?_
    rw [List.head?_map, Option.mem_def.mp htext]
    rfl

theorem exists_text_of_mem_body {cfg : Config} {t : Text} {body : List Line} {line : Line}
    (h : body? cfg (lines t) = some body) (hline : line ∈ body) :
    ∃ text ∈ texts t, Line.ofText text = line := by
  obtain ⟨front, entry, inner, back, -, htexts, -, -, -, rfl, -, -⟩ := exists_texts_of_body? h
  obtain ⟨text, htext, rfl⟩ := List.mem_map.mp hline
  refine ⟨text, ?_, rfl⟩
  rw [htexts]
  exact List.mem_append_right _ (List.mem_cons_of_mem _ (List.mem_append_left _ htext))

end Script

namespace Session

section

variable {cfg : Config} {m : Memory} {texts : List Text}

theorem feedAll_of_no_entry (origin : Path)
    (h : ∀ line ∈ texts.map Line.ofText, Script.isEntry cfg line = false) :
    ({ sink := m } : Session Memory).feedAll cfg origin (texts.map .ok) =
      (.ok (), { sink := m }) := by
  have hfront : ∀ text ∈ texts, Script.isEntry cfg (Line.ofText text) = false :=
    fun text htext => h _ (List.mem_map_of_mem htext)
  rw [← List.append_nil (texts.map Except.ok), feedAll_front rfl hfront]
  rfl

/-- The session that has found the entry, and nothing after it. -/
def entered (m : Memory) : Session Memory :=
  { ({ sink := m } : Session Memory).note .entryFound with progress.phase := .inScript }

theorem HasTaken.entered (cfg : Config) (m : Memory) : HasTaken cfg m [] (entered m) :=
  ⟨rfl, rfl, rfl, (List.append_nil _).symm, rfl⟩

/-- The session after the title that ends the script, if there is one. -/
def endedBy (s : Session Memory) : Option Text → Session Memory
  | none => s
  | some heading => { s.note (.scriptEnds heading) with progress.phase := .ended }

theorem log_endedBy (s : Session Memory) (ending? : Option Text) :
    (s.endedBy ending?).log = s.log ++ (ending?.map Event.scriptEnds).toList := by
  cases ending? with
  | none => exact (List.append_nil _).symm
  | some heading => rfl

theorem phase_endedBy_ne {s : Session Memory} (hp : s.progress.phase = .inScript)
    (ending? : Option Text) : (s.endedBy ending?).progress.phase ≠ .searching := by
  cases ending? with
  | none => exact fun h => nomatch hp.symm.trans h
  | some heading => exact nofun

theorem HasTaken.endedBy {body : List Line} {s : Session Memory} (h : HasTaken cfg m body s)
    (ending? : Option Text) : HasTaken cfg m body (s.endedBy ending?) := by
  cases ending? with
  | none => exact h
  | some heading => exact ⟨h.scenes, h.speakers, h.draft, h.sink, h.files⟩

theorem exists_feedAll_eq_of_body? {body : List Line} (origin : Path)
    (h : Script.body? cfg (texts.map Line.ofText) = some body) :
    ∃ inner back : List Text,
      ({ sink := m } : Session Memory).feedAll cfg origin (texts.map .ok) =
        (entered m).feedAll cfg origin (inner.map .ok ++ back.map .ok) ∧
      inner.map Line.ofText = body ∧
      (∀ text ∈ inner, Script.isTitle (Line.ofText text) = false) ∧
      ∀ text ∈ back.head?, Script.isTitle (Line.ofText text) = true := by
  obtain ⟨front, entry, inner, back, heading, rfl, hfront, hl, hentry, hinner, hbody, hback⟩ :=
    Script.exists_texts_of_body? h
  refine ⟨inner, back, ?_, hinner, hbody, hback⟩
  rw [List.map_append, feedAll_front rfl hfront, List.map_cons,
    feedAll_cons_of_ok (feed_entry rfl hl hentry) rfl, List.map_append]
  rfl

/-- Where all names are different, the whole body is taken in, and after it the title that ends
it, if there is one.  What each line of the body keeps, the body keeps. -/
theorem exists_feedAll_of_nodup {Inv : List Line → Session Memory → Prop}
    (hstep : ∀ {body s text}, Inv body s → s.progress.phase = .inScript →
      Script.isTitle (Line.ofText text) = false →
      (Script.sceneNames cfg (body ++ [Line.ofText text])).Nodup →
      ∃ s', s.feed cfg text = (.ok (), s') ∧ s'.progress.phase = .inScript ∧
        Inv (body ++ [Line.ofText text]) s')
    (hstart : Inv [] (entered m)) {body : List Line} (origin : Path)
    (h : Script.body? cfg (texts.map Line.ofText) = some body)
    (hnew : (Script.sceneNames cfg body).Nodup) :
    ∃ s ending?, Inv body s ∧ s.progress.phase = .inScript ∧
      ({ sink := m } : Session Memory).feedAll cfg origin (texts.map .ok) =
        (.ok (), s.endedBy ending?) := by
  obtain ⟨inner, back, hfeed, rfl, hinner, hback⟩ := exists_feedAll_eq_of_body? (m := m) origin h
  obtain ⟨s, hrest, hp, hs⟩ :=
    exists_feedAll_of_step hstep hstart rfl origin hinner hnew (back.map .ok)
  rw [hfeed, hrest]
  cases back with
  | nil => exact ⟨s, none, hs, hp, rfl⟩
  | cons text more =>
      obtain ⟨heading, hl⟩ := Script.exists_title_of_isTitle (hback text rfl)
      exact ⟨s, some heading, hs, hp, feedAll_cons_of_done (feed_title hp hl) rfl⟩

theorem exists_hasTaken_of_nodup {body : List Line} (origin : Path)
    (h : Script.body? cfg (texts.map Line.ofText) = some body)
    (hnew : (Script.sceneNames cfg body).Nodup) :
    ∃ s, ({ sink := m } : Session Memory).feedAll cfg origin (texts.map .ok) = (.ok (), s) ∧
      s.progress.phase ≠ .searching ∧ HasTaken cfg m body s := by
  obtain ⟨s, ending?, hs, hp, hfeed⟩ :=
    exists_feedAll_of_nodup HasTaken.feed (HasTaken.entered cfg m) origin h hnew
  exact ⟨_, hfeed, phase_endedBy_ne hp ending?, hs.endedBy ending?⟩

/-- Where a name comes again, the lines from there on are not taken in. -/
theorem exists_feedAll_of_firstRepeat {body : List Line} {j : Nat} {name : Text} (origin : Path)
    (h : Script.body? cfg (texts.map Line.ofText) = some body)
    (hrepeat : Script.FirstRepeat (Script.sceneNames cfg body) j name) :
    ∃ s, ({ sink := m } : Session Memory).feedAll cfg origin (texts.map .ok) =
        (.error (.duplicateScene name), s) ∧
      s.sink.files = m.files ++ ((Script.liveSections cfg body).take j).map (·.file cfg) := by
  obtain ⟨inner, back, hfeed, rfl, hinner, -⟩ := exists_feedAll_eq_of_body? (m := m) origin h
  obtain ⟨front, heading, rest, hbody, rfl, hne, hmem, hnew, hlive⟩ := hrepeat.exists_heading
  obtain ⟨fronts, more, rfl, rfl, hmore⟩ := List.map_eq_append_iff.mp hbody
  obtain ⟨text, rests, rfl, hl, -⟩ := List.map_eq_cons_iff.mp hmore
  obtain ⟨s₁, hfront, hp₁, h₁⟩ := (HasTaken.entered cfg m).feedAll rfl origin
    (fun t ht => hinner t (List.mem_append_left _ ht)) hnew
    ((text :: rests).map .ok ++ back.map .ok)
  obtain ⟨s, hdup, hsink⟩ := h₁.feed_repeated hp₁ hl hne hmem
  refine ⟨s, ?_, by rw [hsink, hlive]; rfl⟩
  rw [hfeed, List.map_append, List.append_assoc, hfront, List.map_cons, List.cons_append,
    feedAll_cons_of_error hdup]

end

theorem finish_eq_writeHelpers {cfg : Config} {s : Session Memory}
    (hp : s.progress.phase ≠ .searching) : s.finish cfg = (s.closed cfg).writeHelpers cfg := by
  rw [finish_eq_andThen hp, closeScene_eq]
  rfl

theorem HasTaken.finish {cfg : Config} {m : Memory} {body : List Line} {s : Session Memory}
    (h : HasTaken cfg m body s) (hp : s.progress.phase ≠ .searching) :
    ∃ s', s.finish cfg = (.ok ⟨Script.sceneNames cfg body, Script.speakers cfg body,
        (Script.liveSections cfg body).map (·.path cfg) ++
          [cfg.transitionFile, cfg.dialogFile]⟩, s') ∧
      s'.sink.files = m.files ++ (Script.liveSections cfg body).map (·.file cfg) ++
        [(cfg.transitionFile, Code.transitionClass),
          (cfg.dialogFile, Code.dialogClass (Script.speakers cfg body))] := by
  obtain ⟨s', hhelpers, hsink⟩ := exists_writeHelpers_eq cfg (s.closed cfg)
  have hscenes : (s.closed cfg).progress.scenes.names = Script.sceneNames cfg body := h.scenes
  have hspeakers : (s.closed cfg).progress.speakers.names = Script.speakers cfg body := h.speakers
  rw [hscenes, hspeakers, h.files_closed] at hhelpers
  rw [hspeakers, h.sink_closed] at hsink
  exact ⟨s', (finish_eq_writeHelpers hp).trans hhelpers, hsink⟩

end Session

/-! ## The whole script -/

section

variable {cfg : Config} {m : Memory} {text : Text}

theorem compileText_eq (cfg : Config) (text : Text) (m : Memory) :
    compileText cfg text m = Session.finishAfter cfg
      (({ sink := m } : Session Memory).feedAll cfg unnamedOrigin
        ((Script.texts text).map .ok)) := by
  rw [compileText, compile, Session.run, Script.unmarked_lines_ofText]

theorem compileText_of_no_entry
    (h : ∀ line ∈ Script.lines text, Script.isEntry cfg line = false) :
    compileText cfg text m = (.error (.missingEntryPoint cfg.entryPoint), { sink := m }) := by
  rw [compileText_eq, Session.feedAll_of_no_entry unnamedOrigin h]
  rfl

theorem exists_compileText_eq_finish {body : List Line}
    (h : Script.body? cfg (Script.lines text) = some body)
    (hnew : (Script.sceneNames cfg body).Nodup) :
    ∃ s, compileText cfg text m = s.finish cfg ∧ s.progress.phase ≠ .searching ∧
      Session.HasTaken cfg m body s := by
  obtain ⟨s, hfeed, hp, hs⟩ :=
    Session.exists_hasTaken_of_nodup (m := m) unnamedOrigin h hnew
  refine ⟨s, ?_, hp, hs⟩
  rw [compileText_eq, hfeed]
  rfl

theorem exists_compileText_of_firstRepeat {body : List Line} {j : Nat} {name : Text}
    (h : Script.body? cfg (Script.lines text) = some body)
    (hrepeat : Script.FirstRepeat (Script.sceneNames cfg body) j name) :
    ∃ s, compileText cfg text m = (.error (.duplicateScene name), s) ∧
      s.sink.files = m.files ++ ((Script.liveSections cfg body).take j).map (·.file cfg) := by
  obtain ⟨s, hfeed, hsink⟩ :=
    Session.exists_feedAll_of_firstRepeat (m := m) unnamedOrigin h hrepeat
  refine ⟨s, ?_, hsink⟩
  rw [compileText_eq, hfeed]
  rfl

/-- A fault of the script is the failure of its compilation. -/
theorem exists_compileText_of_fault {f : Failure} {written : List (Path × Text)}
    (h : Script.Fault cfg (Script.lines text) f written) :
    ∃ s, compileText cfg text m = (.error f, s) ∧ s.sink.files = m.files ++ written := by
  cases h with
  | unstarted h => exact ⟨_, compileText_of_no_entry h, (List.append_nil _).symm⟩
  | repeated hbody hrepeat => exact exists_compileText_of_firstRepeat hbody hrepeat

theorem exists_compileText_eq_ok {body : List Line}
    (h : Script.body? cfg (Script.lines text) = some body)
    (hnew : (Script.sceneNames cfg body).Nodup) :
    ∃ r s, compileText cfg text m = (.ok r, s) := by
  obtain ⟨s₁, hcompile, hp, h₁⟩ := exists_compileText_eq_finish (m := m) h hnew
  obtain ⟨s, hfinish, -⟩ := h₁.finish hp
  exact ⟨_, s, hcompile.trans hfinish⟩

theorem exists_body_of_compileText_eq_ok {r : Report} {s : Session Memory}
    (h : compileText cfg text m = (.ok r, s)) :
    ∃ body, Script.body? cfg (Script.lines text) = some body ∧
      (Script.sceneNames cfg body).Nodup := by
  rcases Script.exists_fault_or_nodup cfg (Script.lines text) with ⟨f, written, hfault⟩ | hbody
  · obtain ⟨s', herror, -⟩ := exists_compileText_of_fault (m := m) hfault
    rw [h] at herror
    cases herror
  · exact hbody

/-- A compilation that succeeds reports and writes what the outline of its script tells. -/
theorem exists_files_of_compileText_eq_ok {r : Report} {s : Session Memory}
    (h : compileText cfg text m = (.ok r, s)) :
    ∃ body, Script.body? cfg (Script.lines text) = some body ∧
      r = ⟨Script.sceneNames cfg body, Script.speakers cfg body,
        (Script.liveSections cfg body).map (·.path cfg) ++
          [cfg.transitionFile, cfg.dialogFile]⟩ ∧
      s.sink.files = m.files ++ (Script.liveSections cfg body).map (·.file cfg) ++
        [(cfg.transitionFile, Code.transitionClass),
          (cfg.dialogFile, Code.dialogClass (Script.speakers cfg body))] := by
  obtain ⟨body, hbody, hnames⟩ := exists_body_of_compileText_eq_ok h
  obtain ⟨s₁, hcompile, hp, h₁⟩ := exists_compileText_eq_finish (m := m) hbody hnames
  obtain ⟨s₂, hfinish, hfiles⟩ := h₁.finish hp
  rw [hcompile, hfinish] at h
  cases h
  exact ⟨body, hbody, rfl, hfiles⟩

end

/-- **A compilation refines the outline.**  If the script has an entry and the names of
its live sections are all different, it is compiled; the class of each live section is
written in the order of the script, then the two helpers, and nothing else. -/
theorem compileText_of_distinct (cfg : Config) (text : Text) (m : Memory) (body : List Line)
    (hbody : Script.body? cfg (Script.lines text) = some body)
    (hnames : ((Script.liveSections cfg body).map (·.name cfg)).Nodup) :
    ∃ s, compileText cfg text m =
        (.ok { scenes := (Script.liveSections cfg body).map (·.name cfg)
               speakers := ((Script.liveSections cfg body).flatMap Section.speakers).eraseDups
               files := (Script.liveSections cfg body).map (·.path cfg) ++
                 [cfg.transitionFile, cfg.dialogFile] }, s) ∧
      s.sink.files = m.files ++ (Script.liveSections cfg body).map (·.file cfg) ++
        [(cfg.transitionFile, Code.transitionClass),
          (cfg.dialogFile, Code.dialogClass
            ((Script.liveSections cfg body).flatMap Section.speakers).eraseDups)] := by
  rw [Script.map_name_liveSections] at hnames ⊢
  obtain ⟨s₁, hcompile, hp, h₁⟩ := exists_compileText_eq_finish (m := m) hbody hnames
  rw [hcompile]
  exact h₁.finish hp

/-- Two scenes, and between them a section without a name. -/
theorem compileText_of_distinct_two_scenes :
    let text := "# Script\n## Day\nBob: Hi.\n## !\nEve: Hi.\n## Night\n---\n# End\nEve: Hi.\n".toList
    let body : List Line := [.scene "Day".toList, .statement (.say ⟨"Bob".toList, "Hi.".toList⟩),
      .scene "!".toList, .statement (.say ⟨"Eve".toList, "Hi.".toList⟩), .scene "Night".toList,
      .statement .pause]
    Script.body? {} (Script.lines text) = some body ∧
      ((Script.liveSections {} body).map (·.name {})).Nodup ∧
      ∃ s, compileText {} text ({} : Memory) =
          (.ok { scenes := ["Day".toList, "Night".toList]
                 speakers := ["Bob".toList]
                 files := [⟨"Scenes/Day.cs".toList⟩, ⟨"Scenes/Night.cs".toList⟩,
                   ⟨"Transition.cs".toList⟩, ⟨"Dialog.cs".toList⟩] }, s) ∧
        s.sink.files = [(⟨"Scenes/Day.cs".toList⟩, Code.opening "Day".toList ++
              Statement.code (.say ⟨"Bob".toList, "Hi.".toList⟩) ++ Code.closing),
          (⟨"Scenes/Night.cs".toList⟩, Code.opening "Night".toList ++
              Statement.code .pause ++ Code.closing),
          (⟨"Transition.cs".toList⟩, Code.transitionClass),
          (⟨"Dialog.cs".toList⟩, Code.dialogClass ["Bob".toList])] := by
  intro text body
  have hbody : Script.body? {} (Script.lines text) = some body := rfl
  have hnames : ((Script.liveSections {} body).map (·.name {})).Nodup := by decide
  exact ⟨hbody, hnames, compileText_of_distinct {} text {} body hbody hnames⟩

/-- **A compilation fails in two ways only.**  It fails with the failure `f` and leaves
the files `written` exactly if the script has that fault; without a fault it succeeds,
and that is if there is an entry and the names of the scenes are all different. -/
theorem compileText_fails_iff (cfg : Config) (text : Text) (m : Memory) :
    (∀ f written,
      (∃ s, compileText cfg text m = (.error f, s) ∧ s.sink.files = m.files ++ written) ↔
        Script.Fault cfg (Script.lines text) f written) ∧
    ((∃ r s, compileText cfg text m = (.ok r, s)) ↔
      ∃ body, Script.body? cfg (Script.lines text) = some body ∧
        (Script.sceneNames cfg body).Nodup) := by
  refine ⟨fun f written => ⟨?_, exists_compileText_of_fault⟩, ?_, ?_⟩
  · rintro ⟨s, herror, hsink⟩
    rcases Script.exists_fault_or_nodup cfg (Script.lines text) with
      ⟨f', written', hfault⟩ | ⟨body, hbody, hnames⟩
    · obtain ⟨s', herror', hsink'⟩ := exists_compileText_of_fault (m := m) hfault
      rw [herror] at herror'
      cases herror'
      rw [List.append_cancel_left (hsink.symm.trans hsink')]
      exact hfault
    · obtain ⟨r, s', hok⟩ := exists_compileText_eq_ok (m := m) hbody hnames
      rw [herror] at hok
      cases hok
  · rintro ⟨r, s, hok⟩
    exact exists_body_of_compileText_eq_ok hok
  · rintro ⟨body, hbody, hnames⟩
    exact exists_compileText_eq_ok hbody hnames

end StoryScript
