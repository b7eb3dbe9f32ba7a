/-
# `StoryScript.Proofs.Compilation.DeadText` — lines that might as well not be there

A script is mostly dead text to its compilation:

    front matter             dead
    # Script
    lines of no section      dead
    ## Porch
    lines of the section
    ## !!!                   (makes no name)
    lines of the section     dead
    # Appendix               dead
    back matter              dead, and not even read

What is dead can be left out, or be anything else: the result stays the same and so do
the writes (`compile_dead_text`).  The lines of the dead sections leave no trace in the
session at all.  The title that ends the script leaves one, in the log and in how far
the script has come, but the end of the compilation depends on neither
(`Session.Alike`).
-/
import StoryScript.Proofs.Compilation.Feeding

namespace StoryScript

/-! ## Sessions that end alike -/

/-- The same has been made of two scripts, whatever the log says and wherever they have
come to. -/
structure Session.Alike {σ : Type} (s t : Session σ) : Prop where
  draft : s.progress.draft = t.progress.draft
  scenes : s.progress.scenes = t.progress.scenes
  speakers : s.progress.speakers = t.progress.speakers
  files : s.progress.files = t.progress.files
  sink : s.sink = t.sink

/-- Two outcomes with the same result, and with sessions that are alike. -/
def Outcome.Alike {σ α : Type} (o o' : Outcome σ α) : Prop :=
  o.1 = o'.1 ∧ Session.Alike o.2 o'.2

theorem Outcome.Alike.andThen {σ α : Type} {o o' : Outcome σ Unit}
    {next next' : Session σ → Outcome σ α} (h : o.Alike o')
    (hnext : ∀ s t, s.Alike t → (next s).Alike (next' t)) :
    (o.andThen next).Alike (o'.andThen next') := by
  obtain ⟨result, s⟩ := o
  obtain ⟨result', t⟩ := o'
  obtain ⟨rfl, hst⟩ : result = result' ∧ s.Alike t := h
  cases result with
  | error _ => exact ⟨rfl, hst⟩
  | ok _ => exact hnext s t hst

namespace Session.Alike

variable {σ : Type} {s t : Session σ}

theorem refl (s : Session σ) : s.Alike s := ⟨rfl, rfl, rfl, rfl, rfl⟩

theorem report (h : s.Alike t) : s.report = t.report := by
  rw [Session.report, Session.report, h.scenes, h.speakers, h.files]

variable [Sink σ]

theorem write (h : s.Alike t) (path : Path) (code : Text) :
    (s.write path code).Alike (t.write path code) := by
  unfold Session.write
  rw [h.sink]
  rcases Sink.write t.sink path code with ⟨_ | _, sink⟩
  · exact ⟨rfl, h.draft, h.scenes, h.speakers, h.files, rfl⟩
  · exact ⟨rfl, h.draft, h.scenes, h.speakers, congrArg (· ++ [path]) h.files, rfl⟩

theorem closeScene (h : s.Alike t) (cfg : Config) :
    (s.closeScene cfg).Alike (t.closeScene cfg) := by
  cases hd : t.progress.draft with
  | none =>
      rw [closeScene_of_none hd, closeScene_of_none (h.draft.trans hd)]
      exact ⟨rfl, h⟩
  | some d =>
      rw [closeScene_of_some hd, closeScene_of_some (h.draft.trans hd)]
      refine write ?_ _ _
      exact ⟨rfl, h.scenes, h.speakers, h.files, h.sink⟩

omit [Sink σ] in
theorem note (h : s.Alike t) (e : Event) : (s.note e).Alike (t.note e) :=
  ⟨h.draft, h.scenes, h.speakers, h.files, h.sink⟩

theorem writeHelpers (h : s.Alike t) (cfg : Config) :
    (s.writeHelpers cfg).Alike (t.writeHelpers cfg) := by
  rw [writeHelpers_eq_andThen, writeHelpers_eq_andThen]
  refine ((h.note _).write _ _).andThen ?_
  intro s₁ t₁ h₁
  rw [h₁.speakers]
  refine ((h₁.note _).write _ _).andThen ?_
  intro s₂ t₂ h₂
  exact ⟨congrArg Except.ok h₂.report, h₂⟩

theorem finish (h : s.Alike t) (cfg : Config) (hs : s.progress.phase ≠ .searching)
    (ht : t.progress.phase ≠ .searching) : (s.finish cfg).Alike (t.finish cfg) := by
  rw [finish_eq_andThen hs, finish_eq_andThen ht]
  refine (h.closeScene cfg).andThen ?_
  intro s₁ t₁ h₁
  exact h₁.writeHelpers cfg

end Session.Alike

/-! ## Lines of no live section -/

namespace Script

/-- The lines without those that nobody hears: all but the headings before the first
heading, and under a heading that makes no name.  `live` tells of the lines up to the
next heading whether they are heard. -/
def heardFrom (cfg : Config) (live : Bool) : List Text → List Text
  | [] => []
  | text :: rest =>
    match Line.ofText text with
    | .scene heading => text :: heardFrom cfg (Scene.name cfg.sceneToken heading != []) rest
    | _ => if live then text :: heardFrom cfg live rest else heardFrom cfg live rest

section

variable {cfg : Config} {live : Bool} {text : Text} {rest : List Text}

theorem heardFrom_cons_heading {heading : Text} (h : Line.ofText text = .scene heading) :
    heardFrom cfg live (text :: rest) =
      text :: heardFrom cfg (Scene.name cfg.sceneToken heading != []) rest := by
  rw [heardFrom, h]

theorem heardFrom_cons_of_not_heading (h : isHeading (Line.ofText text) = false) :
    heardFrom cfg live (text :: rest) =
      if live then text :: heardFrom cfg live rest else heardFrom cfg live rest := by
  rw [heardFrom]
  split
  · rename_i hl
    rw [hl] at h
    cases h
  · rfl

theorem heardFrom_subset (cfg : Config) (live : Bool) (texts : List Text) :
    heardFrom cfg live texts ⊆ texts := by
  induction texts generalizing live with
  | nil => exact List.Subset.refl _
  | cons text rest ih =>
      rw [heardFrom]
      split
      · exact List.cons_subset_cons _ (ih _)
      · split
        · exact List.cons_subset_cons _ (ih _)
        · exact List.subset_cons_of_subset _ (ih _)

end

end Script

namespace Session

variable {σ : Type} [Sink σ] {cfg : Config} {s : Session σ}

theorem feed_of_no_draft (hp : s.progress.phase = .inScript) (hdraft : s.progress.draft = none)
    {text : Text} (htitle : Script.isTitle (Line.ofText text) = false)
    (hheading : Script.isHeading (Line.ofText text) = false) :
    s.feed cfg text = (.ok (), s) := by
  cases hl : Line.ofText text with
  | title _ =>
      rw [hl] at htitle
      cases htitle
  | scene _ =>
      rw [hl] at hheading
      cases hheading
  | statement st => rw [feed_statement hp hl, addStatement_of_none hdraft]
  | blank => exact feed_blank hp hl

theorem draft_openScene_of_nil {heading : Text} (h : Scene.name cfg.sceneToken heading = []) :
    (s.openScene cfg heading).2.progress.draft = none := by
  rcases openScene_cases cfg heading s with ⟨failure, hopen⟩ | hopen
  · rw [hopen]
    exact draft_closeScene cfg _
  · rw [hopen, beginScene_of_nil h]
    exact draft_closeScene cfg _

/-- The lines of dead sections make no difference: no scene is open when they come. -/
theorem feedEach_heardFrom {live : Bool} (hp : s.progress.phase = .inScript)
    (hdead : live = false → s.progress.draft = none) {body : List Text}
    (hbody : ∀ text ∈ body, Script.isTitle (Line.ofText text) = false) :
    s.feedEach cfg (Script.heardFrom cfg live body) = s.feedEach cfg body := by
  induction body generalizing s live with
  | nil => rfl
  | cons text rest ih =>
      obtain ⟨htitle, hrest⟩ := List.forall_mem_cons.mp hbody
      have hnext : (s.feed cfg text).2.progress.phase = .inScript :=
        phase_feed_of_not_title hp htitle
      cases hheading : Script.isHeading (Line.ofText text) with
      | true =>
          obtain ⟨heading, hl⟩ := Script.exists_scene_of_isHeading (by rw [hheading]; decide)
          rw [Script.heardFrom_cons_heading hl, feedEach, feedEach]
          refine Outcome.andThen_congr ?_
          intro t ht
          rw [ht] at hnext
          refine ih hnext ?_ hrest
          intro hname
          have hdraft := draft_openScene_of_nil (s := s) (bne_eq_false_iff_eq.mp hname)
          rw [← feed_scene hp hl, ht] at hdraft
          exact hdraft
      | false =>
          rw [Script.heardFrom_cons_of_not_heading hheading]
          cases live with
          | true =>
              rw [if_pos rfl, feedEach, feedEach]
              refine Outcome.andThen_congr ?_
              intro t ht
              rw [ht] at hnext
              refine ih hnext ?_ hrest
              intro hlive
              cases hlive
          | false =>
              have hskip : s.feedEach cfg (text :: rest) = s.feedEach cfg rest := by
                rw [feedEach, feed_of_no_draft hp (hdead rfl) htitle hheading]
                rfl
              rw [if_neg Bool.false_ne_true, hskip]
              exact ih hp hdead hrest

/-- Feeding a title to a script that has started, and whatever stands behind it, and then
finishing is like finishing at once. -/
theorem feedAll_title_alike (hp : s.progress.phase = .inScript) (origin : Path) {ending : Text}
    (h : Script.isTitle (Line.ofText ending) = true) (rest : List (Except IoCause Text)) :
    ((s.feedAll cfg origin (.ok ending :: rest)).andThen (·.finish cfg)).Alike (s.finish cfg) := by
  obtain ⟨heading, hl⟩ := Script.exists_title_of_isTitle h
  have halike : Session.Alike { s.note (.scriptEnds heading) with progress.phase := .ended } s :=
    ⟨rfl, rfl, rfl, rfl, rfl⟩
  rw [feedAll_cons_of_done (feed_title hp hl) rfl]
  refine halike.finish cfg ?_ ?_
  · intro hsearching
    cases hsearching
  · rw [hp]
    decide

end Session

/-! ## The whole script -/

theorem Script.isEntry_unmarkedLine {cfg : Config} {text : Text}
    (h : Script.isEntry cfg (Line.ofText text) = true) :
    Script.isEntry cfg (Line.ofText (Source.unmarkedLine text)) = true := by
  obtain ⟨heading, hl⟩ := Script.exists_title_of_isTitle (Script.isTitle_of_isEntry h)
  rwa [Source.unmarkedLine_of_head? (Line.head?_of_ofText_title hl)]

/-- A session whose script has just started. -/
def Session.started {σ : Type} (sink : σ) : Session σ :=
  { ({ sink } : Session σ).note .entryFound with progress.phase := .inScript }

/-- What stands in front of the entry is read and has no effect. -/
theorem Session.run_of_entry {σ : Type} [Sink σ] {cfg : Config} {front rest : List Text}
    {entry : Text} (hlines : ∀ text ∈ front ++ entry :: rest, '\n' ∉ text)
    (hfront : ∀ text ∈ Script.unmarkFirst front, Script.isEntry cfg (Line.ofText text) = false)
    (hentry : Script.isEntry cfg
      (Line.ofText (if front = [] then Source.unmarkedLine entry else entry)) = true)
    {origin : Path} {post : Bytes} {failure? : Option IoCause} {sink : σ} :
    ({ sink } : Session σ).run cfg origin
        ⟨(Text.unlines (front ++ entry :: rest)).encode ++ post, failure?⟩ =
      ((started sink).feedAll cfg origin
        (rest.map .ok ++ Source.lines ⟨post, failure?⟩)).andThen (·.finish cfg) := by
  obtain ⟨heading, hl⟩ := Script.exists_title_of_isTitle (Script.isTitle_of_isEntry hentry)
  rw [hl] at hentry
  rw [run_unlines_append hlines (by simp), Script.unmarkFirst_append_cons, List.map_append,
    List.append_assoc, feedAll_front rfl hfront, List.map_cons, List.cons_append,
    feedAll_cons_of_ok (feed_entry rfl hl hentry) rfl]
  rfl

theorem Session.run_ofText_of_entry {σ : Type} [Sink σ] {cfg : Config} {rest : List Text}
    {entry : Text} (hlines : ∀ text ∈ entry :: rest, '\n' ∉ text)
    (hentry : Script.isEntry cfg (Line.ofText (Source.unmarkedLine entry)) = true)
    {origin : Path} {sink : σ} :
    ({ sink } : Session σ).run cfg origin (.ofText (Text.unlines (entry :: rest))) =
      ((started sink).feedEach cfg rest).andThen (·.finish cfg) := by
  obtain ⟨heading, hl⟩ := Script.exists_title_of_isTitle (Script.isTitle_of_isEntry hentry)
  rw [hl] at hentry
  rw [run_ofText_unlines hlines, Script.unmarkFirst, feedEach, feed_entry rfl hl hentry]
  rfl

/-- **Dead text has no influence.**  The lines before the entry, the lines of no live
section, the title that ends the script and whatever follows it, be it no text at all or
a reader that fails, change neither the result nor what is written: both are those of
the entry with the headings behind it and the lines that are heard.  Marks in front of
the entry are taken off if it is the first line of all. -/
theorem compile_dead_text {σ : Type} [Sink σ] (cfg : Config) (origin : Path)
    (front body : List Text) (entry ending : Text) (post : Bytes) (failure? : Option IoCause)
    (sink : σ) (hlines : ∀ text ∈ front ++ entry :: (body ++ [ending]), '\n' ∉ text)
    (hfront : ∀ text ∈ Script.unmarkFirst front, Script.isEntry cfg (Line.ofText text) = false)
    (hentry : Script.isEntry cfg
      (Line.ofText (if front = [] then Source.unmarkedLine entry else entry)) = true)
    (hbody : ∀ text ∈ body, Script.isTitle (Line.ofText text) = false)
    (hending : Script.isTitle (Line.ofText ending) = true) :
    let text := Text.unlines (front ++ entry :: (body ++ [ending]))
    let heard := Text.unlines (entry :: Script.heardFrom cfg false body)
    let whole := compile cfg origin ⟨text.encode ++ post, failure?⟩ sink
    let short := compile cfg origin (.ofText heard) sink
    whole.1 = short.1 ∧ whole.2.sink = short.2.sink := by
  intro text heard whole short
  have hwhole : whole = ((Session.started sink).feedEach cfg body).andThen fun s =>
      (s.feedAll cfg origin (.ok ending :: Source.lines ⟨post, failure?⟩)).andThen
        (·.finish cfg) := by
    show ({ sink } : Session σ).run cfg origin _ = _
    rw [Session.run_of_entry hlines hfront hentry, List.map_append, List.append_assoc,
      Session.feedAll_append_of_not_title rfl origin hbody, Outcome.andThen_assoc]
    rfl
  have hshort : short = ((Session.started sink).feedEach cfg body).andThen (·.finish cfg) := by
    have hheard : ∀ text ∈ entry :: Script.heardFrom cfg false body, '\n' ∉ text := by
      intro text htext
      refine hlines text (List.mem_append_right _ ?_)
      rcases List.mem_cons.mp htext with rfl | htext
      · exact List.mem_cons_self
      · exact List.mem_cons_of_mem _
          (List.mem_append_left _ (Script.heardFrom_subset cfg false body htext))
    have hfirst : Script.isEntry cfg (Line.ofText (Source.unmarkedLine entry)) = true := by
      split at hentry
      · exact hentry
      · exact Script.isEntry_unmarkedLine hentry
    show ({ sink } : Session σ).run cfg origin (.ofText heard) = _
    rw [Session.run_ofText_of_entry hheard hfirst,
      Session.feedEach_heardFrom rfl (fun _ => rfl) hbody]
  have hphase : ((Session.started sink).feedEach cfg body).2.progress.phase = .inScript :=
    Session.phase_feedEach_of_not_title rfl hbody
  have halike : whole.Alike short := by
    rw [hwhole, hshort]
    generalize (Session.started sink).feedEach cfg body = fed at hphase ⊢
    rcases fed with ⟨_ | _, s⟩
    · exact ⟨rfl, Session.Alike.refl s⟩
    · exact Session.feedAll_title_alike hphase origin hending _
  exact ⟨halike.1, halike.2.sink⟩

/-- Eve is heard nowhere, and the reader fails where nobody looks. -/
theorem compile_dead_text_without_eve :
    let front := ["\ufeff# Preface", "Eve: Hi."].map String.toList
    let entry := "# Script".toList
    let body := ["Eve: Hi.", "## Day", "Bob: Hi.", "## !", "Eve: Hi."].map String.toList
    let ending := "# End".toList
    let whole := compile {} unnamedOrigin
      ⟨(Text.unlines (front ++ entry :: (body ++ [ending]))).encode ++ [0xFF],
        some (.other "broken pipe".toList)⟩ ({} : Memory)
    (∀ text ∈ front ++ entry :: (body ++ [ending]), '\n' ∉ text) ∧
      (∀ text ∈ Script.unmarkFirst front, Script.isEntry {} (Line.ofText text) = false) ∧
      Script.isEntry {}
        (Line.ofText (if front = [] then Source.unmarkedLine entry else entry)) = true ∧
      (∀ text ∈ body, Script.isTitle (Line.ofText text) = false) ∧
      Script.isTitle (Line.ofText ending) = true ∧
      whole.1 = .ok ⟨["Day".toList], ["Bob".toList], [⟨"Scenes/Day.cs".toList⟩,
        ⟨"Transition.cs".toList⟩, ⟨"Dialog.cs".toList⟩]⟩ := by
  intro front entry body ending whole
  have hlines : ∀ text ∈ front ++ entry :: (body ++ [ending]), '\n' ∉ text := by decide
  have hfront : ∀ text ∈ Script.unmarkFirst front,
      Script.isEntry {} (Line.ofText text) = false := by decide
  have hentry : Script.isEntry {}
      (Line.ofText (if front = [] then Source.unmarkedLine entry else entry)) = true := rfl
  have hbody : ∀ text ∈ body, Script.isTitle (Line.ofText text) = false := by decide
  have hending : Script.isTitle (Line.ofText ending) = true := rfl
  obtain ⟨hresult, -⟩ := compile_dead_text {} unnamedOrigin front body entry ending [0xFF]
    (some (.other "broken pipe".toList)) ({} : Memory) hlines hfront hentry hbody hending
  refine ⟨hlines, hfront, hentry, hbody, hending, hresult.trans ?_⟩
  rfl

end StoryScript
