/-
# `StoryScript.Proofs.Code.Helper` — the class that speaks, and the names in it

The class that speaks is laid out as a template with a loop, whose tags have a line each that
is not to be seen in the class:

    public static class Dialog {
    {%- for character in characters %}      what is in front loses its newline
        (the method of the character)       begins with the newline behind the tag
    {% endfor -%}                           what is behind loses its newline
    }

So every method brings the newline in front of it and the one behind, and the braces bring
none (`Code.render_dialogTemplate`).  Without methods the two braces meet; between two methods
there is one empty line, and there is none in front of the first or behind the last
(`Code.flatMap_method_eq_intercalate`).

The names are read off the class line by line.  What is read has been written for these names,
and whatever has been written for names of speakers is read
(`Code.readDialogClass?_eq_some_iff`).
-/
import StoryScript.Proofs.Code.Calls
import StoryScript.Proofs.Template

namespace StoryScript.Code

/-! ## The template -/

/-- The template of the class that speaks. -/
def dialogTemplate : Text :=
  "using System.IO;\nusing UnityEngine;\n\npublic static class Dialog \x7b\n".toList ++
  "\x7b%- for character in characters %\x7d".toList ++
  ("\n    public static TaleUtil.Action ".toList ++ "\x7b\x7b character \x7d\x7d".toList ++
    ("(string what, string voice = null, bool additive = false, bool reverb = false) =>\n" ++
      "        Tale.Dialog(\"").toList ++ "\x7b\x7b character \x7d\x7d".toList ++
    "\", what, null, voice != null ? Path.Combine(\"".toList ++
      "\x7b\x7b character \x7d\x7d".toList ++
    ("\", voice) : null, voice != null && voice.ToLower().EndsWith(\"loop\"), " ++
      "additive, reverb);\n").toList) ++
  "\x7b% endfor -%\x7d".toList ++ "\n\x7d\n".toList

/-- What is between the tags of the loop. -/
def methodPieces : List Template.Piece :=
  [.text "\n    public static TaleUtil.Action ".toList, .value "character".toList,
    .text ("(string what, string voice = null, bool additive = false, bool reverb = false) =>\n" ++
      "        Tale.Dialog(\"").toList, .value "character".toList,
    .text "\", what, null, voice != null ? Path.Combine(\"".toList, .value "character".toList,
    .text ("\", voice) : null, voice != null && voice.ToLower().EndsWith(\"loop\"), " ++
      "additive, reverb);\n").toList]

theorem methodPieces_isFor :
    ∀ p ∈ methodPieces, p.isFor "character".toList = true := by
  -- Literal by literal the characters are found faster than in whole texts.
  simp only [methodPieces, String.toList_append, String.reduceToList]
  decide +kernel

theorem flatMap_threeGaps (f : Template.Piece → Text) (a b c d name : Text) :
    [.text a, .value name, .text b, .value name, .text c, .value name, .text d].flatMap f =
      f (.text a) ++ f (.value name) ++ f (.text b) ++ f (.value name) ++ f (.text c) ++
        f (.value name) ++ f (.text d) := by
  simp only [List.flatMap_cons, List.flatMap_nil, List.append_nil, List.append_assoc]

theorem flatMap_put_methodPieces (speaker : Text) :
    methodPieces.flatMap (Template.Piece.put speaker) = method speaker :=
  flatMap_threeGaps _ _ _ _ _ _

theorem dialogTemplate_eq :
    dialogTemplate = (dialogOpening ++ ['\n']) ++
      Template.loopTag "character".toList "characters".toList ++
        methodPieces.flatMap Template.Piece.source ++ Template.endTag ++ "\n\x7d\n".toList := by
  have hopening : dialogOpening ++ ['\n'] =
      "using System.IO;\nusing UnityEngine;\n\npublic static class Dialog \x7b\n".toList := by
    decide +kernel
  have hloop : Template.loopTag "character".toList "characters".toList =
      "\x7b%- for character in characters %\x7d".toList := by
    decide
  have hgap : (Template.Piece.value "character".toList).source =
      "\x7b\x7b character \x7d\x7d".toList := by
    decide
  rw [methodPieces, flatMap_threeGaps, hopening, hloop, hgap]
  rfl

/-- **The class that speaks is its template with the speakers put in.**  The newlines next to
the loop are gone, and those inside of it are not. -/
theorem render_dialogTemplate (engine : Template.Engine "character".toList "characters".toList)
    (speakers : List Text) :
    engine.render dialogTemplate [("characters".toList, .list speakers)] =
      some (dialogClass speakers) := by
  have hopening : Template.isPlain (dialogOpening ++ ['\n']) = true := by decide +kernel
  rw [dialogTemplate_eq, engine.render_loop hopening methodPieces_isFor (by decide)
    List.lookup_cons_self]
  simp only [flatMap_put_methodPieces]
  have hfront : Text.dropEndWhile Text.isBlank (dialogOpening ++ ['\n']) = dialogOpening := by
    decide +kernel
  rw [hfront]
  rfl

/-! ## The joints -/

theorem flatMap_method_eq_intercalate (speaker : Text) (rest : List Text) :
    (speaker :: rest).flatMap method = '\n' :: (List.intercalate "\n\n".toList
      ((speaker :: rest).map fun speaker => methodLine speaker ++ '\n' :: methodBody speaker) ++
        ['\n']) := by
  have hmethod (speaker : Text) : method speaker =
      '\n' :: (methodLine speaker ++ '\n' :: methodBody speaker ++ ['\n']) := by
    simp only [method_eq, Text.unlines_cons, Text.unlines_nil, List.nil_append, List.append_assoc,
      List.cons_append]
  induction rest generalizing speaker with
  | nil =>
      rw [List.flatMap_singleton, List.map_singleton, List.intercalate_singleton, hmethod]
  | cons next rest ih =>
      rw [List.flatMap_cons, ih, hmethod]
      simp only [List.map_cons, List.intercalate_cons_cons, List.append_assoc, List.cons_append]
      rfl

/-! ## Reading the names -/

/-- Whether a text can be the name of a speaker. -/
def IsSpeaker (t : Text) : Prop := t ≠ [] ∧ ∀ c ∈ t, c.isAlphanum = true

instance : DecidablePred IsSpeaker := fun t =>
  decidable_of_iff (t ≠ [] ∧ t.all Char.isAlphanum = true)
    (and_congr_right' List.all_eq_true)

/-- The names of the methods, from the lines from `line` on, which is the one that the first
method or the closing brace is appended to. -/
def readMethods? (line : Text) : List Text → Option (List Text)
  | [last, []] => if last = line ++ ['\x7d'] then some [] else none
  | first :: declared :: body :: rest => do
    let speaker ← declaredIn? declared
    if first = line ∧ declared = methodLine speaker ∧ body = methodBody speaker ∧
      IsSpeaker speaker then (readMethods? [] rest).map (speaker :: ·) else none
  | _ => none

/-- The names of the methods of the class that speaks, if the text is such a class. -/
def readDialogClass? (code : Text) : Option (List Text) := do
  let lines ← (Text.splitAt '\n' code).dropPrefix?
    ["using System.IO;".toList, "using UnityEngine;".toList, []]
  readMethods? "public static class Dialog \x7b".toList lines

theorem IsSpeaker.not_mem {speaker : Text} (h : IsSpeaker speaker) {c : Char}
    (hc : c.isAlphanum = false) : c ∉ speaker := by
  intro hmem
  rw [h.2 c hmem] at hc
  cases hc

theorem readMethods?_methodLines {speakers : List Text}
    (h : ∀ speaker ∈ speakers, IsSpeaker speaker) (line : Text) :
    readMethods? line (methodLines line speakers) = some speakers := by
  induction speakers generalizing line with
  | nil => exact if_pos rfl
  | cons speaker rest ih =>
      obtain ⟨hspeaker, hrest⟩ := List.forall_mem_cons.mp h
      have hdeclared : declaredIn? (methodLine speaker) = some speaker :=
        nameAfter?_append (hspeaker.not_mem (by decide)) _ _
      rw [methodLines, readMethods?, hdeclared, Option.bind_eq_bind, Option.bind_some,
        if_pos ⟨rfl, rfl, rfl, hspeaker⟩, ih hrest]
      rfl

theorem eq_methodLines_of_readMethods? {line : Text} {lines speakers : List Text}
    (h : readMethods? line lines = some speakers) :
    lines = methodLines line speakers ∧ ∀ speaker ∈ speakers, IsSpeaker speaker := by
  fun_induction readMethods? line lines generalizing speakers with
  | case1 =>
      cases h
      exact ⟨rfl, nofun⟩
  | case2 => cases h
  | case3 line first declared body rest ih =>
      obtain ⟨speaker, -, hread⟩ := Option.bind_eq_some_iff.mp h
      split at hread
      · rename_i hlines
        obtain ⟨rfl, rfl, rfl, hspeaker⟩ := hlines
        obtain ⟨others, hothers, rfl⟩ := Option.map_eq_some_iff.mp hread
        obtain ⟨rfl, hrest⟩ := ih hothers
        exact ⟨rfl, List.forall_mem_cons.mpr ⟨hspeaker, hrest⟩⟩
      · cases hread
  | case4 => cases h

/-- **Exactly the classes that speak are read**, each as the names that it was made from. -/
theorem readDialogClass?_eq_some_iff {code : Text} {speakers : List Text} :
    readDialogClass? code = some speakers ↔
      code = dialogClass speakers ∧ ∀ speaker ∈ speakers, IsSpeaker speaker := by
  have hwritten (h : ∀ speaker ∈ speakers, IsSpeaker speaker) :
      Text.splitAt '\n' (dialogClass speakers) =
        ["using System.IO;".toList, "using UnityEngine;".toList, []] ++
          methodLines "public static class Dialog \x7b".toList speakers :=
    splitAt_dialogClass fun speaker hs => (h speaker hs).not_mem (by decide)
  constructor
  · intro h
    obtain ⟨lines, hlines, hread⟩ := Option.bind_eq_some_iff.mp h
    have hcode := Text.dropPrefix?_eq_some_iff.mp hlines
    obtain ⟨rfl, hspeakers⟩ := eq_methodLines_of_readMethods? hread
    refine ⟨Text.splitAt_injective '\n' ?_, hspeakers⟩
    rw [hwritten hspeakers, hcode]
  · rintro ⟨rfl, hspeakers⟩
    rw [readDialogClass?, hwritten hspeakers, Text.dropPrefix?_append]
    exact readMethods?_methodLines hspeakers _

/-- **The class that speaks is exact, and can be read.**  It is what an engine makes of its
template and the speakers: an opening, for each speaker in order a newline, the line that
declares the method, the line with its body, and a newline, and then the closing brace.  Without
speakers the braces meet, and two methods have one empty line between them.

If the speakers have names as speakers have them, they can be read off the text, and a text
that is read as these names is this one; so no other names make it, and it declares one method
for each of them. -/
theorem dialogClass_exact (engine : Template.Engine "character".toList "characters".toList)
    (speakers : List Text) :
    let opening := "using System.IO;\nusing UnityEngine;\n\npublic static class Dialog \x7b".toList
    let code := dialogClass speakers
    engine.render dialogTemplate [("characters".toList, .list speakers)] = some code ∧
    code = opening ++ (speakers.flatMap fun speaker =>
      '\n' :: (methodLine speaker ++ '\n' :: (methodBody speaker ++ ['\n']))) ++ "\x7d\n".toList ∧
    (speakers = [] → code = opening ++ "\x7d\n".toList) ∧
    (speakers ≠ [] → code = opening ++ '\n' :: (List.intercalate "\n\n".toList
      (speakers.map fun speaker => methodLine speaker ++ '\n' :: methodBody speaker) ++
        "\n\x7d\n".toList)) ∧
    (∀ text, readDialogClass? text = some speakers ↔
      text = code ∧ ∀ speaker ∈ speakers, IsSpeaker speaker) ∧
    ((∀ speaker ∈ speakers, IsSpeaker speaker) →
      (methods code).length = speakers.length ∧
        ∀ others, (∀ speaker ∈ others, IsSpeaker speaker) → dialogClass others = code →
          others = speakers) := by
  intro opening code
  refine ⟨render_dialogTemplate engine speakers, ?_, ?_, ?_, ?_, ?_⟩
  · have hmethod : (fun speaker => '\n' :: (methodLine speaker ++ '\n' ::
        (methodBody speaker ++ ['\n']))) = method := by
      funext speaker
      simp only [method_eq, Text.unlines_cons, Text.unlines_nil, List.nil_append]
    rw [hmethod]
    rfl
  · rintro rfl
    rfl
  · intro hne
    obtain ⟨speaker, rest, rfl⟩ := List.exists_cons_of_ne_nil hne
    show dialogOpening ++ (speaker :: rest).flatMap method ++ "\x7d\n".toList = _
    rw [flatMap_method_eq_intercalate]
    simp only [List.append_assoc, List.cons_append]
    rfl
  · intro text
    exact readDialogClass?_eq_some_iff
  · intro hspeakers
    refine ⟨?_, ?_⟩
    · exact congrArg List.length (methods_dialogClass fun speaker hs => (hspeakers speaker hs).2)
    · intro others hothers hsame
      have hread : readDialogClass? code = some speakers :=
        readDialogClass?_eq_some_iff.mpr ⟨rfl, hspeakers⟩
      have hread' : readDialogClass? code = some others :=
        readDialogClass?_eq_some_iff.mpr ⟨hsame.symm, hothers⟩
      rw [hread] at hread'
      exact (Option.some.inj hread').symm

/-- For the two speakers of a scene: they are read in the order in which they were put in, and
turned round they make another class. -/
theorem dialogClass_exact_bob_and_ann :
    let speakers := ["Bob".toList, "Ann".toList]
    let code := dialogClass speakers
    Template.engine.render dialogTemplate [("characters".toList, .list speakers)] = some code ∧
    readDialogClass? code = some speakers ∧ (methods code).length = 2 ∧
    dialogClass speakers.reverse ≠ code := by
  intro speakers code
  have hspeakers : ∀ speaker ∈ speakers, IsSpeaker speaker := by decide
  have hreverse : ∀ speaker ∈ speakers.reverse, IsSpeaker speaker := by decide
  obtain ⟨hrender, -, -, -, hread, hmade⟩ := dialogClass_exact Template.engine speakers
  obtain ⟨hlength, hothers⟩ := hmade hspeakers
  refine ⟨hrender, (hread code).mpr ⟨rfl, hspeakers⟩, hlength, ?_⟩
  intro hsame
  have hsame : speakers.reverse = speakers := hothers _ hreverse hsame
  revert hsame
  decide

end StoryScript.Code
