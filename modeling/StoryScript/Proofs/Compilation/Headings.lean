/-
# `StoryScript.Proofs.Compilation.Headings` — the wording of the headings

What a compilation keeps of a heading is the name that it makes.  The wording goes into
the log and nowhere else, so two scripts whose headings make the same names compile alike
(`compileText_alike`), whatever comes of it:

    ## Scene 1: the train          ## Story_1_the_train
    Bob: Hi.                       Bob: Hi.
    ## [Night]                     ## Night

In particular a name may stand for the heading that has made it, as on the right, if the
name makes itself.  It does so unless the token is empty or has a separator in it
(`Scene.name_name`): a token that is one of the words gives way to itself.  The names of
all scenes are in the summary, and so the script on the right is made from the one on the
left and its summary (`Script.retitled`).
-/
import StoryScript.Proofs.Compilation.Repeats
import StoryScript.Proofs.Compilation.Whole
import StoryScript.Proofs.Scene.Parts

namespace StoryScript

/-! ## Headings that make the same name -/

/-- The same line, but for the wording of a heading. -/
inductive Line.SameName (cfg : Config) : Line → Line → Prop
  | refl (line : Line) : SameName cfg line line
  | scene {heading heading' : Text} :
      Scene.name cfg.sceneToken heading = Scene.name cfg.sceneToken heading' →
      SameName cfg (.scene heading) (.scene heading')

theorem Line.SameName.next_eq {cfg : Config} {line line' : Line} (h : SameName cfg line line')
    (phase : Phase) : phase.next cfg line = phase.next cfg line' := by
  cases h with
  | refl => rfl
  | scene _ =>
      cases phase with
      | searching => rfl
      | inScript => rfl
      | ended => rfl

theorem Outcome.andThen_related {σ α : Type} {o o' : Outcome σ Unit}
    {next next' : Session σ → Outcome σ α} {R Q : Session σ → Session σ → Prop}
    (hresult : o.1 = o'.1) (hleft : R o.2 o'.2) (hweaker : ∀ s t, R s t → Q s t)
    (hnext : ∀ s t, R s t → (next s).1 = (next' t).1 ∧ Q (next s).2 (next' t).2) :
    (o.andThen next).1 = (o'.andThen next').1 ∧ Q (o.andThen next).2 (o'.andThen next').2 := by
  obtain ⟨result, s⟩ := o
  obtain ⟨result', t⟩ := o'
  obtain rfl : result = result' := hresult
  cases result with
  | error _ => exact ⟨rfl, hweaker s t hleft⟩
  | ok _ => exact hnext s t hleft

namespace Session

variable {σ : Type} {cfg : Config} {s t : Session σ} {heading heading' text text' : Text}

theorem beginScene_alike
    (h : Scene.name cfg.sceneToken heading = Scene.name cfg.sceneToken heading')
    (s : Session σ) : (s.beginScene cfg heading).Alike (s.beginScene cfg heading') := by
  unfold beginScene
  rw [h]
  split
  · exact ⟨rfl, rfl, rfl, rfl, rfl, rfl⟩
  · split
    · exact ⟨rfl, Alike.refl _⟩
    · exact ⟨rfl, Alike.refl _⟩

variable [Sink σ]

theorem openScene_alike (hst : s.Alike t)
    (h : Scene.name cfg.sceneToken heading = Scene.name cfg.sceneToken heading') :
    (s.openScene cfg heading).Alike (t.openScene cfg heading') := by
  have hnoted : (s.note (.sceneHeading heading)).Alike (t.note (.sceneHeading heading')) :=
    ⟨hst.draft, hst.scenes, hst.speakers, hst.files, hst.sink⟩
  rw [openScene_eq_andThen, openScene_eq_andThen]
  refine (hnoted.closeScene cfg).andThen ?_
  intro s₁ t₁ h₁
  obtain ⟨hresult, hleft⟩ := h₁.beginScene cfg heading
  obtain ⟨hresult', hleft'⟩ := beginScene_alike h t₁
  exact ⟨hresult.trans hresult', hleft.trans hleft'⟩

/-- Two sessions that are in step take a line in alike, whatever the wording of the heading that
it may be. -/
theorem InStep.feed (h : s.InStep t)
    (hline : (Line.ofText text).SameName cfg (Line.ofText text')) :
    (s.feed cfg text).1 = (t.feed cfg text').1 ∧
      (s.feed cfg text).2.InStep (t.feed cfg text').2 := by
  have hphase : (s.feed cfg text).2.progress.phase = (t.feed cfg text').2.progress.phase := by
    rw [phase_feed, phase_feed, h.phase, hline.next_eq]
  have halike : (s.feed cfg text).Alike (t.feed cfg text') := by
    generalize hl : Line.ofText text = line at hline
    generalize hl' : Line.ofText text' = line' at hline
    cases hline with
    | refl =>
        rw [feed_congr (hl'.trans hl.symm)]
        exact h.toAlike.feed h.phase cfg text
    | scene hname =>
        cases hp : t.progress.phase with
        | searching =>
            rw [feed_of_searching (h.phase.trans hp) (by rw [hl]; rfl),
              feed_of_searching hp (by rw [hl']; rfl)]
            exact ⟨rfl, h.toAlike⟩
        | inScript =>
            rw [feed_scene (h.phase.trans hp) hl, feed_scene hp hl']
            exact openScene_alike h.toAlike hname
        | ended =>
            rw [feed_of_ended (h.phase.trans hp), feed_of_ended hp]
            exact ⟨rfl, h.toAlike⟩
  exact ⟨halike.1, halike.2, hphase⟩

theorem InStep.feedEach {texts texts' : List Text} (h : s.InStep t)
    (hlines : List.Forall₂ (Line.SameName cfg) (texts.map Line.ofText) (texts'.map Line.ofText)) :
    (s.feedEach cfg texts).1 = (t.feedEach cfg texts').1 ∧
      (s.feedEach cfg texts).2.InStep (t.feedEach cfg texts').2 := by
  induction texts generalizing s t texts' with
  | nil =>
      cases texts' with
      | nil => exact ⟨rfl, h⟩
      | cons _ _ => cases hlines
  | cons text rest ih =>
      cases texts' with
      | nil => cases hlines
      | cons text' rest' =>
          obtain ⟨hline, hrest⟩ := List.forall₂_cons.mp hlines
          obtain ⟨hresult, hleft⟩ := h.feed hline
          exact Outcome.andThen_related hresult hleft (fun _ _ => id)
            fun s₁ t₁ h₁ => ih h₁ hrest

end Session

theorem compileText_eq_feedEach {σ : Type} [Sink σ] (cfg : Config) (text : Text) (sink : σ) :
    compileText cfg text sink =
      (({ sink } : Session σ).feedEach cfg (Script.texts text)).andThen (·.finish cfg) := by
  rw [compileText, compile, Session.run, Script.unmarked_lines_ofText, Session.feedAll_map_ok,
    Session.finishAfter_eq_andThen]

/-- **The wording of the headings does not matter**, only the names that they make: the
compilation has the same result, of whatever kind, and leaves the same behind. -/
theorem compileText_alike {σ : Type} [Sink σ] {cfg : Config} {text text' : Text}
    (h : List.Forall₂ (Line.SameName cfg) (Script.lines text) (Script.lines text')) (sink : σ) :
    (compileText cfg text sink).Alike (compileText cfg text' sink) := by
  have hstart : ({ sink } : Session σ).InStep { sink } := ⟨Session.Alike.refl _, rfl⟩
  obtain ⟨hresult, hleft⟩ := hstart.feedEach h
  rw [compileText_eq_feedEach, compileText_eq_feedEach]
  exact Outcome.andThen_related hresult hleft (fun _ _ h => h.toAlike) fun s t h => h.finish cfg

/-! ## Names for headings -/

section

variable {α : Type} {p : α → Bool} {front back : List α}

theorem takeWhile_append_of_head? (hfront : ∀ a ∈ front, p a = true)
    (hback : ∀ a ∈ back.head?, p a = false) : (front ++ back).takeWhile p = front := by
  rw [List.takeWhile_append_of_pos hfront]
  cases back with
  | nil => exact List.append_nil front
  | cons a rest => rw [List.takeWhile_cons, hback a rfl, if_neg Bool.false_ne_true, List.append_nil]

theorem dropWhile_append_of_head? (hfront : ∀ a ∈ front, p a = true)
    (hback : ∀ a ∈ back.head?, p a = false) : (front ++ back).dropWhile p = back := by
  rw [List.dropWhile_append_of_pos hfront]
  cases back with
  | nil => rfl
  | cons a rest => rw [List.dropWhile_cons, hback a rfl, if_neg Bool.false_ne_true]

end

namespace Script

/-- The lines of a body with the names, one after the other, for the headings that make one. -/
def retitledBody (cfg : Config) : List Text → List Text → List Text
  | _, [] => []
  | names, text :: rest =>
    match sceneName? cfg (Line.ofText text), names with
    | some _, name :: names => ("## ".toList ++ name) :: retitledBody cfg names rest
    | _, names => text :: retitledBody cfg names rest

/-- The lines of a script with the names for the headings of its body that make one. -/
def retitled (cfg : Config) (names texts : List Text) : List Text :=
  let isBefore text := !isEntry cfg (Line.ofText text)
  let isInside text := !isTitle (Line.ofText text)
  match texts.dropWhile isBefore with
  | [] => texts
  | entry :: rest =>
    texts.takeWhile isBefore ++
      entry :: (retitledBody cfg names (rest.takeWhile isInside) ++ rest.dropWhile isInside)

/-- The headings of a body that make a name. -/
def usableHeadings (cfg : Config) (body : List Line) : List Text :=
  (body.filterMap Line.heading?).filter (Scene.name cfg.sceneToken · != [])

variable {cfg : Config}

section Parts

variable {front inner back : List Text} {entry : Text}
  (hfront : ∀ text ∈ front, isEntry cfg (Line.ofText text) = false)
  (hentry : isEntry cfg (Line.ofText entry) = true)
  (hinner : ∀ text ∈ inner, isTitle (Line.ofText text) = false)
  (hback : ∀ text ∈ back.head?, isTitle (Line.ofText text) = true)
include hfront hentry hinner hback

theorem body?_append : body? cfg ((front ++ entry :: (inner ++ back)).map Line.ofText) =
    some (inner.map Line.ofText) := by
  have hpass : ∀ line ∈ front.map Line.ofText, (!isEntry cfg line) = true := by simpa using hfront
  have hstop : ∀ line ∈ ((entry :: (inner ++ back)).map Line.ofText).head?,
      (!isEntry cfg line) = false := by
    simpa using hentry
  have hpass' : ∀ line ∈ inner.map Line.ofText, (!isTitle line) = true := by simpa using hinner
  have hstop' : ∀ line ∈ (back.map Line.ofText).head?, (!isTitle line) = false := by
    simpa using hback
  rw [body?, List.map_append, dropWhile_append_of_head? hpass hstop]
  change some (((inner ++ back).map Line.ofText).takeWhile (!isTitle ·)) = _
  rw [List.map_append, takeWhile_append_of_head? hpass' hstop']

theorem retitled_append (names : List Text) :
    retitled cfg names (front ++ entry :: (inner ++ back)) =
      front ++ entry :: (retitledBody cfg names inner ++ back) := by
  have hpass : ∀ text ∈ front, (!isEntry cfg (Line.ofText text)) = true := by simpa using hfront
  have hstop : ∀ text ∈ (entry :: (inner ++ back)).head?,
      (!isEntry cfg (Line.ofText text)) = false := by
    simpa using hentry
  have hpass' : ∀ text ∈ inner, (!isTitle (Line.ofText text)) = true := by simpa using hinner
  have hstop' : ∀ text ∈ back.head?, (!isTitle (Line.ofText text)) = false := by simpa using hback
  simp only [retitled, dropWhile_append_of_head? hpass hstop, takeWhile_append_of_head? hpass hstop,
    takeWhile_append_of_head? hpass' hstop', dropWhile_append_of_head? hpass' hstop']

end Parts

section Cons

variable {text name : Text} {names rest : List Text}

theorem retitledBody_cons_of_none (h : sceneName? cfg (Line.ofText text) = none) :
    retitledBody cfg names (text :: rest) = text :: retitledBody cfg names rest := by
  rw [retitledBody.eq_3]
  intro _ _ _ h'
  rw [h] at h'
  cases h'

theorem retitledBody_cons_of_some (h : sceneName? cfg (Line.ofText text) = some name)
    (other : Text) : retitledBody cfg (other :: names) (text :: rest) =
      ("## ".toList ++ other) :: retitledBody cfg names rest := by
  rw [retitledBody.eq_2 _ _ _ _ _ _ h]

theorem usableHeadings_cons_of_none {line : Line} (h : sceneName? cfg line = none)
    (body : List Line) : usableHeadings cfg (line :: body) = usableHeadings cfg body := by
  cases line with
  | scene heading =>
      have hname : ¬ (Scene.name cfg.sceneToken heading != []) = true := by
        simpa [sceneName?, Line.heading?] using h
      exact List.filter_cons_of_neg hname
  | title _ => rfl
  | statement _ => rfl
  | blank => rfl

theorem usableHeadings_cons_scene {heading : Text} (h : Scene.name cfg.sceneToken heading ≠ [])
    (body : List Line) :
    usableHeadings cfg (.scene heading :: body) = heading :: usableHeadings cfg body :=
  List.filter_cons_of_pos (p := (Scene.name cfg.sceneToken · != [])) (bne_iff_ne.mpr h)

end Cons

theorem mem_retitledBody {names inner : List Text} {text : Text}
    (h : text ∈ retitledBody cfg names inner) :
    text ∈ inner ∨ ∃ name ∈ names, text = "## ".toList ++ name := by
  induction inner generalizing names with
  | nil => exact Or.inl h
  | cons first rest ih =>
      unfold retitledBody at h
      split at h
      · rename_i name more _
        rcases List.mem_cons.mp h with rfl | h
        · exact Or.inr ⟨name, List.mem_cons_self, rfl⟩
        · rcases ih h with h | ⟨name', hname', rfl⟩
          · exact Or.inl (List.mem_cons_of_mem _ h)
          · exact Or.inr ⟨name', List.mem_cons_of_mem _ hname', rfl⟩
      · rcases List.mem_cons.mp h with rfl | h
        · exact Or.inl List.mem_cons_self
        · exact (ih h).imp_left (List.mem_cons_of_mem _)

theorem lines_unlines {ls : List Text} (h : ∀ line ∈ ls, '\n' ∉ line)
    (hmark : ∀ text ∈ ls.head?, text.head? ≠ some Source.byteOrderMark) :
    lines (Text.unlines ls) = ls.map Line.ofText := by
  have hread := unmarked_lines_ofText (Text.unlines ls)
  rw [Source.lines_ofText_unlines h, unmarked_map_ok] at hread
  have htexts := List.map_injective_iff.mpr (fun _ _ => Except.ok.inj) hread
  rw [lines, ← htexts, map_ofText_unmarkFirst_map_dropReturn, unmarkFirst_of_head? hmark]

theorem head?_of_mem_head?_texts {t text : Text} (h : text ∈ (texts t).head?) :
    text.head? ≠ some Source.byteOrderMark := by
  unfold texts at h
  split at h
  · obtain rfl := Option.some.inj h
    intro hmark
    exact Text.head?_dropWhile (· == Source.byteOrderMark) _ (congrArg (Option.map _) hmark)
  · cases h

section Stable

variable (hne : cfg.sceneToken ≠ []) (hclear : ∀ c ∈ cfg.sceneToken, Scene.isSeparator c = false)

include hclear in
/-- A name has nothing to cut off and reads as the heading that it is. -/
theorem ofText_name (heading : Text) :
    Line.ofText ("## ".toList ++ Scene.name cfg.sceneToken heading) =
      .scene (Scene.name cfg.sceneToken heading) := by
  have hblank : ∀ c ∈ Scene.name cfg.sceneToken heading, ¬ Text.isBlank c = true := by
    intro c hc hblank
    rw [Scene.eq_underscore_of_mem_name hclear hc (by simp [Scene.isSeparator, hblank])] at hblank
    cases hblank
  exact congrArg Line.scene (Text.trim_eq_self_of_forall hblank)

include hclear in
theorem newline_not_mem_of_mem_sceneNames {body : List Line} {name : Text}
    (h : name ∈ sceneNames cfg body) : '\n' ∉ name := by
  rw [sceneNames_eq_filterMap] at h
  obtain ⟨line, -, hname⟩ := List.mem_filterMap.mp h
  obtain ⟨heading, -, rfl, -⟩ := sceneName?_eq_some_iff.mp hname
  intro hmem
  cases Scene.eq_underscore_of_mem_name hclear hmem rfl

include hne hclear

theorem sameName_retitledBody (inner : List Text) :
    List.Forall₂ (Line.SameName cfg) (inner.map Line.ofText)
      ((retitledBody cfg (sceneNames cfg (inner.map Line.ofText)) inner).map Line.ofText) := by
  rw [sceneNames_eq_filterMap]
  induction inner with
  | nil => exact .nil
  | cons text rest ih =>
      rw [List.map_cons]
      cases hname : sceneName? cfg (Line.ofText text) with
      | none =>
          rw [List.filterMap_cons_none hname, retitledBody_cons_of_none hname]
          exact .cons (.refl _) ih
      | some name =>
          obtain ⟨heading, hl, rfl, -⟩ := sceneName?_eq_some_iff.mp hname
          rw [List.filterMap_cons_some hname, retitledBody_cons_of_some hname]
          refine .cons ?_ ih
          rw [hl, ofText_name hclear]
          exact .scene (Scene.name_name hne hclear heading).symm

theorem usableHeadings_retitledBody (inner : List Text) :
    usableHeadings cfg
        ((retitledBody cfg (sceneNames cfg (inner.map Line.ofText)) inner).map Line.ofText) =
      sceneNames cfg (inner.map Line.ofText) := by
  rw [sceneNames_eq_filterMap]
  induction inner with
  | nil => rfl
  | cons text rest ih =>
      rw [List.map_cons]
      cases hname : sceneName? cfg (Line.ofText text) with
      | none =>
          rw [List.filterMap_cons_none hname, retitledBody_cons_of_none hname, List.map_cons,
            usableHeadings_cons_of_none hname, ih]
      | some name =>
          obtain ⟨heading, hl, rfl, hkept⟩ := sceneName?_eq_some_iff.mp hname
          have hagain : Scene.name cfg.sceneToken (Scene.name cfg.sceneToken heading) ≠ [] := by
            rwa [Scene.name_name hne hclear]
          rw [List.filterMap_cons_some hname, retitledBody_cons_of_some hname, List.map_cons,
            ofText_name hclear, usableHeadings_cons_scene hagain, ih]

/-- With the names for its headings a script makes the same names line by line, it is read as the
same lines once written out, and its usable headings are the names. -/
theorem retitled_texts {text : Text} {body : List Line}
    (h : body? cfg (lines text) = some body) :
    let titled := retitled cfg (sceneNames cfg body) (texts text)
    List.Forall₂ (Line.SameName cfg) (lines text) (titled.map Line.ofText) ∧
      lines (Text.unlines titled) = titled.map Line.ofText ∧
      ∃ body', body? cfg (titled.map Line.ofText) = some body' ∧
        usableHeadings cfg body' = sceneNames cfg body := by
  obtain ⟨front, entry, inner, back, heading, htexts, hfront, hl, hentry, rfl, hinner, hback⟩ :=
    exists_texts_of_body? h
  have hisEntry : isEntry cfg (Line.ofText entry) = true := by rw [hl]; exact hentry
  have htitled := retitled_append hfront hisEntry hinner hback
    (sceneNames cfg (inner.map Line.ofText))
  have hnames : ∀ name ∈ sceneNames cfg (inner.map Line.ofText), '\n' ∉ name :=
    fun name => newline_not_mem_of_mem_sceneNames hclear
  have hnewline : ∀ line ∈ texts text, '\n' ∉ line := fun line => not_mem_of_mem_texts
  have hmark : ∀ line ∈ (texts text).head?, line.head? ≠ some Source.byteOrderMark :=
    fun line => head?_of_mem_head?_texts
  have hsame := sameName_retitledBody hne hclear inner
  have hheadings := usableHeadings_retitledBody hne hclear inner
  rw [lines, htexts, htitled]
  rw [htexts] at hnewline hmark
  generalize sceneNames cfg (inner.map Line.ofText) = names at *
  have hsame_refl (ls : List Text) :
      List.Forall₂ (Line.SameName cfg) (ls.map Line.ofText) (ls.map Line.ofText) :=
    List.forall₂_same.mpr fun line _ => .refl line
  refine ⟨?_, ?_, ?_⟩
  · simp only [List.map_append, List.map_cons]
    exact List.rel_append (hsame_refl front)
      (.cons (.refl _) (List.rel_append hsame (hsame_refl back)))
  · refine lines_unlines ?_ ?_
    · intro line hline
      simp only [List.mem_append, List.mem_cons] at hline hnewline
      rcases hline with hline | rfl | hline | hline
      · exact hnewline line (Or.inl hline)
      · exact hnewline line (Or.inr (Or.inl rfl))
      · rcases mem_retitledBody hline with hline | ⟨name, hname, rfl⟩
        · exact hnewline line (Or.inr (Or.inr (Or.inl hline)))
        · exact fun hmem => hnames name hname (by simpa using hmem)
      · exact hnewline line (Or.inr (Or.inr (Or.inr hline)))
    · cases front with
      | nil => exact hmark
      | cons _ _ => exact hmark
  · refine ⟨_, body?_append hfront hisEntry ?_ hback, hheadings⟩
    intro line hline
    rcases mem_retitledBody hline with hline | ⟨name, -, rfl⟩
    · exact hinner line hline
    · rfl

end Stable

end Script

/-- **A name serves as the heading that makes it**, if the token is not empty and has no
separator in it: it makes itself.  So a script that compiles can have its usable headings
replaced by the names in the summary, and every text with these lines compiles to the same
summary and the same files. -/
theorem names_serve_as_headings (cfg : Config) (hne : cfg.sceneToken ≠ [])
    (hclear : ∀ c ∈ cfg.sceneToken, Scene.isSeparator c = false) :
    (∀ heading, Scene.name cfg.sceneToken (Scene.name cfg.sceneToken heading) =
      Scene.name cfg.sceneToken heading) ∧
    ∀ (text : Text) (m : Memory) (r : Report) (s : Session Memory),
      compileText cfg text m = (.ok r, s) →
      let titled := Script.retitled cfg r.scenes (Script.texts text)
      (∃ body, Script.body? cfg (titled.map Line.ofText) = some body ∧
        Script.usableHeadings cfg body = r.scenes) ∧
      Script.lines (Text.unlines titled) = titled.map Line.ofText ∧
      ∀ text', Script.lines text' = titled.map Line.ofText →
        ∃ s', compileText cfg text' m = (.ok r, s') ∧ s'.sink = s.sink := by
  refine ⟨Scene.name_name hne hclear, ?_⟩
  intro text m r s hok titled
  obtain ⟨body, hbody, hr, -⟩ := exists_files_of_compileText_eq_ok hok
  have hscenes : r.scenes = Script.sceneNames cfg body := by rw [hr]
  obtain ⟨hsame, hlines, hheadings⟩ := Script.retitled_texts hne hclear hbody
  rw [← hscenes] at hsame hlines hheadings
  refine ⟨hheadings, hlines, fun text' htext' => ?_⟩
  obtain ⟨hresult, hleft⟩ := compileText_alike (htext' ▸ hsame) m
  rw [hok] at hresult hleft
  exact ⟨(compileText cfg text' m).2, Prod.ext hresult.symm rfl, hleft.sink.symm⟩

/-- A token that is one of the words, and a heading that makes no name. -/
theorem names_serve_as_headings_scena :
    let cfg : Config := { sceneToken := "Scena".toList }
    let text := Text.unlines (["# Script", "## scene 1: the train", "Bob: Hi.", "## !", "Eve: Ho.",
      "## [Night]", "---"].map String.toList)
    let text' := Text.unlines (["# Script", "## Scena_1_the_train", "Bob: Hi.", "## !", "Eve: Ho.",
      "## Night", "---"].map String.toList)
    cfg.sceneToken ≠ [] ∧ (∀ c ∈ cfg.sceneToken, Scene.isSeparator c = false) ∧
      ∃ (r : Report) (s s' : Session Memory), compileText cfg text {} = (.ok r, s) ∧
        r.scenes = ["Scena_1_the_train".toList, "Night".toList] ∧
        compileText cfg text' {} = (.ok r, s') ∧ s'.sink = s.sink := by
  intro cfg text text'
  have hne : cfg.sceneToken ≠ [] := by decide
  have hclear : ∀ c ∈ cfg.sceneToken, Scene.isSeparator c = false := by
    simp only [← Bool.not_eq_true', ← List.all_eq_true]
    rfl
  have hbody : Script.body? cfg (Script.lines text) = some ((["## scene 1: the train", "Bob: Hi.",
      "## !", "Eve: Ho.", "## [Night]", "---"].map String.toList).map Line.ofText) := rfl
  obtain ⟨r, s, hok⟩ := exists_compileText_eq_ok (m := {}) hbody (by decide)
  have hscenes : r.scenes = ["Scena_1_the_train".toList, "Night".toList] := by
    obtain ⟨body, hbody', rfl, -⟩ := exists_files_of_compileText_eq_ok hok
    obtain rfl := Option.some.inj (hbody.symm.trans hbody')
    rfl
  have htitled : Script.lines text' =
      (Script.retitled cfg r.scenes (Script.texts text)).map Line.ofText := by
    rw [hscenes]
    rfl
  obtain ⟨-, hall⟩ := names_serve_as_headings cfg hne hclear
  obtain ⟨-, -, hagain⟩ := hall text {} r s hok
  obtain ⟨s', hok', hsink⟩ := hagain text' htitled
  exact ⟨hne, hclear, r, s, s', hok, hscenes, hok', hsink⟩

end StoryScript
