/-
# `StoryScript.Proofs.Program.Listing` — what a successful run tells, line by line

Between its banner and its last words a run tells what it has come to in lines, and a dry run
goes on with a line for every file:

    ---
    🎬 Scenes: 1
       Day
    🗣️ Characters: Bob, Ann
    📄 Files: 3
    📁 Dry run, nothing written. Would generate:
       out/Scenes/Day.cs (262 bytes)
       out/Transition.cs (322 bytes)
       out/Dialog.cs (627 bytes)

The line of a file is an entry, and it tells one path and one size only.  A path may hold
anything, the words for the size included, so an entry is read from its end: there are the
words, in front of them the longest numeral, and in front of that a bracket.  What is read
are exactly the lines that are written so (`listed?_eq_some_iff`).
-/
import Mathlib.Data.List.Basic
import StoryScript.Program
import StoryScript.Proofs.Text.Blank
import StoryScript.Proofs.Text.Lines

namespace StoryScript.Program

/-! ## Entries -/

/-- The number that the text is the decimal numeral of. -/
def readNumeral? (t : Text) : Option Nat :=
  let n := Nat.ofDigitChars 10 t 0
  if Nat.toDigits 10 n = t then some n else none

theorem readNumeral?_eq_some_iff {t : Text} {n : Nat} :
    readNumeral? t = some n ↔ t = Nat.toDigits 10 n := by
  rw [readNumeral?, Option.ite_none_right_eq_some]
  constructor
  · rintro ⟨ht, hn⟩
    rw [← Option.some.inj hn, ht]
  · rintro rfl
    rw [Nat.ofDigitChars_ten_toDigits]
    exact ⟨rfl, rfl⟩

/-- The line that lists a file, by its path and its size. -/
def entryLine (path : Text) (size : Nat) : Text :=
  "   ".toList ++ path ++ " (".toList ++ Nat.toDigits 10 size ++ " bytes)".toList

/-- The path and the size that a line lists. -/
def listed? (line : Text) : Option (Text × Nat) :=
  (line.dropPrefix? "   ".toList).bind fun entry =>
    (entry.dropSuffix? " bytes)".toList).bind fun front =>
      ((Text.dropEndWhile Char.isDigit front).dropSuffix? " (".toList).bind fun path =>
        (readNumeral? (front.reverse.takeWhile Char.isDigit).reverse).map fun size => (path, size)

theorem lastDigits_append (path : Text) (size : Nat) :
    let front := path ++ " (".toList ++ Nat.toDigits 10 size
    Text.dropEndWhile Char.isDigit front = path ++ " (".toList ∧
      (front.reverse.takeWhile Char.isDigit).reverse = Nat.toDigits 10 size := by
  intro front
  have hdigits : ∀ c ∈ Nat.toDigits 10 size, c.isDigit = true := fun c hc =>
    Nat.isDigit_of_mem_toDigits (by decide) (by decide) hc
  have hbracket : (path ++ " (".toList).getLast?.map Char.isDigit ≠ some true := by
    rw [List.getLast?_append_of_ne_nil _ (by decide)]
    decide
  have hpath : Text.dropEndWhile Char.isDigit front = path ++ " (".toList :=
    (Text.dropEndWhile_append hdigits _).trans (Text.dropEndWhile_eq_self_iff.mpr hbracket)
  -- what is not cut off and what is make the text again
  have hwhole := Text.dropEndWhile_append_takeWhile Char.isDigit front
  rw [hpath] at hwhole
  exact ⟨hpath, List.append_cancel_left hwhole⟩

/-- **Exactly the lines of files are read as entries**, each as its path and its size. -/
theorem listed?_eq_some_iff {line path : Text} {size : Nat} :
    listed? line = some (path, size) ↔ line = entryLine path size := by
  simp only [listed?, Option.bind_eq_some_iff, Option.map_eq_some_iff,
    Text.dropPrefix?_eq_some_iff, Text.dropSuffix?_eq_some_iff, readNumeral?_eq_some_iff,
    Prod.mk.injEq]
  constructor
  · rintro ⟨_, rfl, front, rfl, _, hpath, _, hsize, rfl, rfl⟩
    have hfront := Text.dropEndWhile_append_takeWhile Char.isDigit front
    rw [hpath, hsize] at hfront
    rw [entryLine, ← hfront]
    simp only [List.append_assoc]
  · rintro rfl
    obtain ⟨hpath, hsize⟩ := lastDigits_append path size
    refine ⟨_, ?_, _, rfl, path, hpath, size, hsize, rfl, rfl⟩
    rw [entryLine]
    simp only [List.append_assoc]

theorem map_listed?_entryLine (outputDir : Path) (files : List (Path × Text)) :
    (files.map fun file =>
        entryLine (outputDir.join file.1).text file.2.encode.length).map listed? =
      files.map fun file => some ((outputDir.join file.1).text, file.2.encode.length) := by
  rw [List.map_map]
  exact List.map_congr_left fun file _ => listed?_eq_some_iff.mpr rfl

/-! ## Lines -/

/-- The lines of a summary. -/
def summaryLines (r : Report) : List Text :=
  ["---".toList, "🎬 Scenes: ".toList ++ Nat.toDigits 10 r.scenes.length] ++
  r.scenes.map ("   ".toList ++ ·) ++
  ["🗣️ Characters: ".toList ++ List.intercalate ", ".toList r.speakers,
    "📄 Files: ".toList ++ Nat.toDigits 10 r.files.length]

theorem summary_eq_unlines (r : Report) : summary r = Text.unlines (summaryLines r) := by
  have hnewline : "\n".toList = ['\n'] := rfl
  have hopening : "---\n🎬 Scenes: " = "---" ++ ("\n" ++ "🎬 Scenes: ") := rfl
  have hscenes : Text.unlines (r.scenes.map ("   ".toList ++ ·)) =
      r.scenes.flatMap fun scene => "   ".toList ++ scene ++ ['\n'] := by
    rw [Text.unlines, List.flatMap_map]
  unfold summary summaryLines Text.digitsOf
  simp only [Text.unlines_append, Text.unlines_cons, Text.unlines_nil, hscenes, hopening, hnewline,
    String.toList_append, List.append_assoc, List.cons_append, List.nil_append]

theorem dryListing_eq_unlines (outputDir : Path) (m : Memory) :
    dryListing outputDir m =
      Text.unlines ("📁 Dry run, nothing written. Would generate:".toList ::
        m.files.map fun file => entryLine (outputDir.join file.1).text file.2.encode.length) := by
  have hnewline : "\n".toList = ['\n'] := rfl
  have htitle : "📁 Dry run, nothing written. Would generate:\n" =
      "📁 Dry run, nothing written. Would generate:" ++ "\n" := rfl
  have hbytes : " bytes)\n" = " bytes)" ++ "\n" := rfl
  rw [Text.unlines_cons, Text.unlines, List.flatMap_map]
  unfold dryListing entryLine Text.digitsOf
  simp only [htitle, hbytes, hnewline, Text.length_encode, String.toList_append,
    List.append_assoc, List.cons_append, List.nil_append]

end StoryScript.Program
