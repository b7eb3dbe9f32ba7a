/-
# `StoryScript.Proofs.Code.LineEnds` — where the code of a scene breaks

A script is cut into lines at one character, and the code made from it is read by a
language that knows five:

    U+000A   newline                cuts the script and the code
    U+000D   carriage return        \
    U+0085   next line               \   cut the code, and are blanks
    U+2028   line separator          /   like any other to the script
    U+2029   paragraph separator    /

Blanks are cut off at the ends of an utterance or a comment and stay inside it, and
`Dialogue.escape` takes care of the quote and the backslash only.  So every newline of the
code is the frame's, and the code breaks where the frame does and, besides, wherever the
words of a statement hold one of the other four (`scene_lineEnds`).  There a comment goes
on without its slashes, and a literal is not closed on its line
(`scene_lineEnds_open_literal`).
-/
import StoryScript.Proofs.Code.Calls

namespace StoryScript

namespace Text

/-- The characters at which a line of code ends. -/
def isLineEnd (c : Char) : Bool := c ∈ ['\n', '\r', '\u0085', '\u2028', '\u2029']

/-- The line ends of a text, in their order. -/
def lineEnds (t : Text) : Text := t.filter isLineEnd

theorem isBlank_of_isLineEnd {c : Char} (h : isLineEnd c = true) : isBlank c = true := by
  have hall : ∀ c ∈ ['\n', '\r', '\u0085', '\u2028', '\u2029'], isBlank c = true :=
    List.all_eq_true.mp rfl
  exact hall c (of_decide_eq_true h)

theorem mem_lineEnds {c : Char} {t : Text} : c ∈ lineEnds t ↔ c ∈ t ∧ isLineEnd c = true :=
  List.mem_filter

theorem lineEnds_append (t u : Text) : lineEnds (t ++ u) = lineEnds t ++ lineEnds u :=
  List.filter_append t u

theorem lineEnds_eq_nil_iff {t : Text} : lineEnds t = [] ↔ ∀ c ∈ t, ¬ isLineEnd c = true :=
  List.filter_eq_nil_iff

theorem lineEnds_of_isAlphanum {t : Text} (h : ∀ c ∈ t, c.isAlphanum = true) : lineEnds t = [] := by
  refine lineEnds_eq_nil_iff.mpr fun c hc hend => ?_
  exact not_isBlank_of_isAlphanum (h c hc) (isBlank_of_isLineEnd hend)

end Text

open Text

/-! ## The line ends of a statement -/

/-- What a statement has from its line, besides the name of the speaker. -/
def Statement.words : Statement → Text
  | .say d => d.literal
  | .pause => []
  | .comment text => text

namespace Statement

variable {line : Text} {s : Statement}

theorem lineEnds_codeLine (h : Line.ofText line = .statement s) :
    lineEnds s.codeLine = lineEnds s.words := by
  rcases Line.ofText_eq_statement h with ⟨d, rfl, hd⟩ | rfl | rfl
  · have hspeaker : lineEnds d.speaker = [] :=
      lineEnds_of_isAlphanum (Dialogue.isAlphanum_of_ofLine? hd)
    have hcall : lineEnds "        Dialog.".toList = [] := by decide
    have hopen : lineEnds "(\"".toList = [] := by decide
    have hclose : lineEnds ('"' :: Dialogue.callEnd d.isReverb) = [] := by
      cases d.isReverb <;> decide
    unfold codeLine words
    simp only [lineEnds_append, hcall, hspeaker, hopen, hclose, List.nil_append, List.append_nil]
  · decide
  · have hslashes : lineEnds "        // ".toList = [] := by decide
    unfold codeLine words
    simp only [lineEnds_append, hslashes, List.nil_append]

/-- The code of a statement has a newline before and behind its words. -/
theorem lineEnds_code (h : Line.ofText line = .statement s) :
    lineEnds s.code = '\n' :: (lineEnds s.words ++ ['\n']) := by
  have hcons (t : Text) : lineEnds ('\n' :: t) = '\n' :: lineEnds t := rfl
  rw [code_eq, unlines_pair, hcons, lineEnds_append, lineEnds_codeLine h]
  rfl

theorem not_mem_words (hline : '\n' ∉ line) (h : Line.ofText line = .statement s) :
    '\n' ∉ s.words := by
  intro hmem
  have hend : '\n' ∈ lineEnds s.words := mem_lineEnds.mpr ⟨hmem, rfl⟩
  rw [← lineEnds_codeLine h] at hend
  exact not_mem_codeLine hline h (mem_lineEnds.mp hend).1

end Statement

/-! ## The line ends of a scene -/

/-- The line ends of the class of a scene.  The frame has six lines before the statements
and six behind them; a statement has one line, with an empty one before it, unless there
are line ends in its words. -/
def Code.breaks (statements : List Statement) : Text :=
  List.replicate 6 '\n' ++ (statements.flatMap fun s => '\n' :: (lineEnds s.words ++ ['\n'])) ++
    List.replicate 6 '\n'

theorem Code.lineEnds_sceneClass {name : Text} (hname : lineEnds name = [])
    {statements : List Statement}
    (h : ∀ s ∈ statements, ∃ line, Line.ofText line = .statement s) :
    lineEnds (sceneClass name statements) = breaks statements := by
  have hopening : lineEnds (opening name) = List.replicate 6 '\n' := by
    unfold opening
    rw [lineEnds_append, lineEnds_append, hname]
    decide
  have hclosing : lineEnds closing = List.replicate 6 '\n' := by decide
  have hstatements : lineEnds (statements.flatMap Statement.code) =
      statements.flatMap fun s => '\n' :: (lineEnds s.words ++ ['\n']) := by
    rw [lineEnds, List.filter_flatMap]
    refine List.flatMap_congr fun s hs => ?_
    obtain ⟨line, hline⟩ := h s hs
    exact Statement.lineEnds_code hline
  rw [sceneClass, lineEnds_append, lineEnds_append, hopening, hstatements, hclosing, breaks]

theorem Code.mem_breaks_iff {c : Char} (h : c ≠ '\n') {statements : List Statement} :
    c ∈ breaks statements ↔ ∃ s ∈ statements, c ∈ lineEnds s.words := by
  have hframe : c ∉ List.replicate 6 '\n' := fun hc => h (List.eq_of_mem_replicate hc)
  simp only [breaks, List.mem_append, List.mem_flatMap, List.mem_cons, List.not_mem_nil, h, hframe,
    false_or, or_false]

theorem Scene.lineEnds_name {token : Text} (htoken : lineEnds token = []) (heading : Text) :
    lineEnds (name token heading) = [] := by
  refine lineEnds_eq_nil_iff.mpr fun c hc hend => ?_
  have hsep : isSeparator c = true := by
    unfold isSeparator
    rw [isBlank_of_isLineEnd hend]
    rfl
  have hunderscore : c ≠ '_' := by
    rintro rfl
    cases hend
  have hnot : c ∉ token := fun hmem => lineEnds_eq_nil_iff.mp htoken c hmem hend
  exact not_mem_name hsep hunderscore hnot heading hc

/-- **Where the code of the scenes breaks.**  The token of the settings, which is put into
names as it is, holds no line end.  After a compilation the line ends of a scene's code are
those of its frame and, statement by statement, those of the words; the words hold no
newline.  So the code breaks at newlines alone, all of them the frame's, exactly if no
statement of the scene holds a line end of another kind. -/
theorem scene_lineEnds (cfg : Config) (text : Text) (m : Memory) (r : Report)
    (s : Session Memory) (htoken : lineEnds cfg.sceneToken = [])
    (hok : compileText cfg text m = (.ok r, s)) :
    ∃ body, Script.body? cfg (Script.lines text) = some body ∧
      s.sink.files = m.files ++ (Script.liveSections cfg body).map (·.file cfg) ++
        [(cfg.transitionFile, Code.transitionClass),
          (cfg.dialogFile, Code.dialogClass r.speakers)] ∧
      ∀ sec ∈ Script.liveSections cfg body,
        lineEnds (sec.code cfg) = Code.breaks sec.statements ∧
        (∀ st ∈ sec.statements, '\n' ∉ st.words) ∧
        ((∀ c ∈ sec.code cfg, isLineEnd c = true → c = '\n') ↔
          ∀ st ∈ sec.statements, lineEnds st.words = []) := by
  obtain ⟨body, hbody, rfl, hfiles⟩ := exists_files_of_compileText_eq_ok hok
  refine ⟨body, hbody, hfiles, fun sec hsec => ?_⟩
  have hends : lineEnds (sec.code cfg) = Code.breaks sec.statements := by
    refine Code.lineEnds_sceneClass (Scene.lineEnds_name htoken sec.heading) fun st hst => ?_
    obtain ⟨line, -, hl⟩ := Section.exists_text_of_mem_statements hbody hsec hst
    exact ⟨line, hl⟩
  have hwords : ∀ st ∈ sec.statements, '\n' ∉ st.words := by
    intro st hst
    obtain ⟨line, hline, hl⟩ := Section.exists_text_of_mem_statements hbody hsec hst
    exact Statement.not_mem_words hline hl
  -- apart from the newline, neither the frame nor the name has a part in it
  have hcode {c : Char} (hend : isLineEnd c = true) (hc : c ≠ '\n') :
      c ∈ sec.code cfg ↔ ∃ st ∈ sec.statements, c ∈ lineEnds st.words := by
    rw [← Code.mem_breaks_iff hc, ← hends, mem_lineEnds, and_iff_left hend]
  refine ⟨hends, hwords, ?_, ?_⟩
  · intro honly st hst
    refine lineEnds_eq_nil_iff.mpr fun c hc hend => ?_
    have hne : c ≠ '\n' := fun e => hwords st hst (e ▸ hc)
    exact hne (honly c ((hcode hend hne).mpr ⟨st, hst, mem_lineEnds.mpr ⟨hc, hend⟩⟩) hend)
  · intro hnone c hc hend
    by_contra hne
    obtain ⟨st, hst, hmem⟩ := (hcode hend hne).mp hc
    rw [hnone st hst] at hmem
    cases hmem

/-- Two scenes from lines with returns, and line separators: those around the words are cut
off, and of the two scenes one breaks. -/
theorem scene_lineEnds_day_and_night :
    let text := "# Script\r\n## Day\r\nBob: \u2028Hi\u2028\r\n## Night\r\nIt\u2028rains.\r\n".toList
    lineEnds (Config.sceneToken {}) = [] ∧
      ∃ r s day night, compileText {} text ({} : Memory) = (.ok r, s) ∧
        s.sink.files.map (·.2) = [day, night, Code.transitionClass, Code.dialogClass r.speakers] ∧
        (∀ c ∈ day, isLineEnd c = true → c = '\n') ∧
        lineEnds night = List.replicate 7 '\n' ++ '\u2028' :: List.replicate 7 '\n' := by
  intro text
  have htoken : lineEnds (Config.sceneToken {}) = [] := by decide
  have hok : compileText {} text ({} : Memory) =
      (.ok ⟨["Day".toList, "Night".toList], ["Bob".toList],
        [⟨"Scenes/Day.cs".toList⟩, ⟨"Scenes/Night.cs".toList⟩, ⟨"Transition.cs".toList⟩,
          ⟨"Dialog.cs".toList⟩]⟩, (compileText {} text ({} : Memory)).2) := rfl
  let day : Section := ⟨"Day".toList, [.statement (.say ⟨"Bob".toList, "Hi".toList⟩)]⟩
  let night : Section := ⟨"Night".toList, [.statement (.comment "It\u2028rains.".toList)]⟩
  obtain ⟨body, hbody, hfiles, hscenes⟩ := scene_lineEnds {} text {} _ _ htoken hok
  have hlive : Script.liveSections {} body = [day, night] := by
    cases hbody
    rfl
  rw [hlive] at hfiles hscenes
  obtain ⟨-, -, hday⟩ := hscenes day List.mem_cons_self
  obtain ⟨hnight, -⟩ := hscenes night (List.mem_cons_of_mem _ List.mem_cons_self)
  refine ⟨htoken, _, _, day.code {}, night.code {}, hok, ?_, hday.mpr ?_, hnight⟩
  · simp only [hfiles, Section.file, List.map_cons, List.map_nil, List.nil_append,
      List.cons_append]
  · intro st hst
    rw [List.mem_singleton.mp hst]
    rfl

/-- A literal that is not closed on the line on which it is opened: what Bob says goes into
the call with the line separator in it. -/
theorem scene_lineEnds_open_literal :
    let text := "# Script\n## Day\nBob: a\u2028b\n".toList
    let code := Code.opening "Day".toList ++ "\n        Dialog.Bob(\"a\u2028b\");\n".toList ++
      Code.closing
    (∃ r s, compileText {} text ({} : Memory) = (.ok r, s) ∧
      (⟨"Scenes/Day.cs".toList⟩, code) ∈ s.sink.files) ∧
    '\u2028' ∈ code ∧ isLineEnd '\u2028' = true := by
  intro text code
  have hok : compileText {} text ({} : Memory) =
      (.ok ⟨["Day".toList], ["Bob".toList],
        [⟨"Scenes/Day.cs".toList⟩, ⟨"Transition.cs".toList⟩, ⟨"Dialog.cs".toList⟩]⟩,
        (compileText {} text ({} : Memory)).2) := rfl
  exact ⟨⟨_, _, hok, List.mem_cons_self⟩, by decide, rfl⟩

end StoryScript
