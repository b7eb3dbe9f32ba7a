/-
# `StoryScript.Proofs.Compilation.Entry` — the heading that a script has to have

A compilation that finds no entry says which heading it was looking for: two characters,
`# `, and the keyword of the settings.  Whether a script that has this very line has an
entry depends on the keyword alone:

    the keyword has no blanks at its ends     the line is an entry
    it has some                               neither the line nor any other is

For the heading of a line is trimmed before it is compared, and the keyword is not.  Both
are brought to lower case, which leaves blanks where they are, so in the second case the
two differ at an end whatever the heading is (`compileText_entry_line`), and the advice
cannot be followed (`compileText_entry_line_in_vain`).
-/
import StoryScript.Proofs.Compilation.Whole
import StoryScript.Proofs.Line
import StoryScript.Proofs.Text.LowerCase

namespace StoryScript

namespace Config

theorem isEntryPoint_trim {cfg : Config} (h : Text.trim cfg.entryPoint = cfg.entryPoint) :
    cfg.isEntryPoint (Text.trim cfg.entryPoint) = true := by
  rw [h, isEntryPoint]
  exact beq_self_eq_true _

theorem trim_entryPoint_of_isEntryPoint {cfg : Config} {t : Text}
    (h : cfg.isEntryPoint (Text.trim t) = true) : Text.trim cfg.entryPoint = cfg.entryPoint := by
  have hlower : Text.lower (Text.trim t) = Text.lower cfg.entryPoint := beq_iff_eq.mp h
  rw [← Text.trim_lower_eq_self_iff, ← hlower, Text.trim_lower_eq_self_iff]
  exact Text.trim_trim t

end Config

namespace Script

/-- The line that the keyword is looked for in. -/
def entryLine (cfg : Config) : Text := '#' :: ' ' :: cfg.entryPoint

theorem mem_texts_of_mem_lines {t line : Text} (h : line ∈ Text.lines t)
    (hhead : line.head? ≠ some Source.byteOrderMark) : line ∈ texts t := by
  unfold texts
  cases hlines : Text.lines t with
  | nil =>
      rw [hlines] at h
      cases h
  | cons first rest =>
      rw [hlines] at h
      rcases List.mem_cons.mp h with rfl | h
      · show line ∈ Source.unmarkedLine line :: rest
        rw [Source.unmarkedLine_of_head? hhead]
        exact List.mem_cons_self
      · exact List.mem_cons_of_mem _ h

/-- The line of the keyword is an entry if the keyword has no blanks at its ends. -/
theorem isEntry_entryLine {cfg : Config} (h : Text.trim cfg.entryPoint = cfg.entryPoint) :
    isEntry cfg (Line.ofText (entryLine cfg)) = true :=
  Config.isEntryPoint_trim h

/-- No line is an entry if the keyword has blanks at its ends. -/
theorem isEntry_ofText_of_trim_ne {cfg : Config} (h : Text.trim cfg.entryPoint ≠ cfg.entryPoint)
    (text : Text) : isEntry cfg (Line.ofText text) = false := by
  rw [Bool.eq_false_iff]
  intro hentry
  obtain ⟨heading, hl⟩ := exists_title_of_isTitle (isTitle_of_isEntry hentry)
  obtain ⟨rest, -, rfl⟩ := Line.exists_of_ofText_title hl
  rw [hl] at hentry
  exact h (Config.trim_entryPoint_of_isEntryPoint hentry)

end Script

theorem compileText_ne_missingEntryPoint {cfg : Config} {text line : Text} {m : Memory}
    (hmem : line ∈ Script.texts text) (hentry : Script.isEntry cfg (Line.ofText line) = true)
    (keyword : Text) : (compileText cfg text m).1 ≠ .error (.missingEntryPoint keyword) := by
  intro hmissing
  rcases Script.exists_fault_or_nodup cfg (Script.lines text) with
    ⟨f, written, hfault⟩ | ⟨body, hbody, hnames⟩
  · obtain ⟨s, hcompile, -⟩ := exists_compileText_of_fault (m := m) hfault
    rw [hcompile] at hmissing
    cases hmissing
    cases hfault with
    | unstarted hnone =>
        rw [hnone _ (List.mem_map_of_mem hmem)] at hentry
        cases hentry
  · obtain ⟨r, s, hcompile⟩ := exists_compileText_eq_ok (m := m) hbody hnames
    rw [hcompile] at hmissing
    cases hmissing

/-- **When the advice of the diagnostic helps.**  With a keyword that has no blanks at its
ends, a script that has the keyword's line does not fail for want of an entry.  With any
other keyword every script does, also one that has the line. -/
theorem compileText_entry_line (cfg : Config) :
    (Text.trim cfg.entryPoint = cfg.entryPoint →
      ∀ text (m : Memory), Script.entryLine cfg ∈ Text.lines text →
        ∀ keyword, (compileText cfg text m).1 ≠ .error (.missingEntryPoint keyword)) ∧
    (Text.trim cfg.entryPoint ≠ cfg.entryPoint →
      ∀ text (m : Memory),
        compileText cfg text m = (.error (.missingEntryPoint cfg.entryPoint), { sink := m })) := by
  constructor
  · intro htrim text m hline
    have hhead : (Script.entryLine cfg).head? ≠ some Source.byteOrderMark := by
      show some '#' ≠ some Source.byteOrderMark
      decide
    exact compileText_ne_missingEntryPoint (Script.mem_texts_of_mem_lines hline hhead)
      (Script.isEntry_entryLine htrim)
  · intro htrim text m
    refine compileText_of_no_entry fun line hline => ?_
    obtain ⟨t, -, rfl⟩ := List.mem_map.mp hline
    exact Script.isEntry_ofText_of_trim_ne htrim t

/-- A keyword whose lower case depends on where its letters stand, and the same with a blank
behind it. -/
theorem compileText_entry_line_final_sigma :
    let cfg : Config := { entryPoint := "ΛΌΓΟΣ Αʹ".toList }
    let spaced : Config := { entryPoint := "ΛΌΓΟΣ ".toList }
    let text := "Notes\r\n# ΛΌΓΟΣ Αʹ\r\n## Day\r\n# ΛΌΓΟΣ \r\n".toList
    Text.trim cfg.entryPoint = cfg.entryPoint ∧ Script.entryLine cfg ∈ Text.lines text ∧
      (∀ keyword, (compileText cfg text ({} : Memory)).1 ≠ .error (.missingEntryPoint keyword)) ∧
      Text.trim spaced.entryPoint ≠ spaced.entryPoint ∧
      (compileText spaced text ({} : Memory)).1 =
        .error (.missingEntryPoint spaced.entryPoint) := by
  intro cfg spaced text
  have htrim : Text.trim cfg.entryPoint = cfg.entryPoint := by decide
  have hline : Script.entryLine cfg ∈ Text.lines text := by decide
  have hspaced : Text.trim spaced.entryPoint ≠ spaced.entryPoint := by decide
  obtain ⟨hfound, -⟩ := compileText_entry_line cfg
  obtain ⟨-, hmissing⟩ := compileText_entry_line spaced
  refine ⟨htrim, hline, hfound htrim text {} hline, hspaced, ?_⟩
  rw [hmissing hspaced text {}]

/-- The script has the heading that the diagnostic asks for, character by character, and is
told to have it. -/
theorem compileText_entry_line_in_vain :
    let cfg : Config := { entryPoint := "Script ".toList }
    let text := "# Script \n## Day\n".toList
    '\n' ∉ cfg.entryPoint ∧ Script.entryLine cfg ∈ Text.lines text ∧
      (compileText cfg text ({} : Memory)).1 = .error (.missingEntryPoint cfg.entryPoint) :=
  ⟨by decide, by decide, rfl⟩

end StoryScript
