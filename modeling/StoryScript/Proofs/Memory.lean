/-
# `StoryScript.Proofs.Memory` — the last file written to a place

A memory keeps every file, in the order in which they came, and what it has under a path is
the last one that went to the place of that path.  It does not matter how the two are spelled,
nor where the file came from: it may be written on its own or by a compilation, also by one
that fails later on.

    write     Scenes/Night.cs       under  Scenes/Night.cs   what was written
    compile   ## Night              under  Scenes/Night.cs   the class of the scene
    write     Scenes//./Night.cs/   under  Scenes/Night.cs   what was written
    write     ./Scenes/Night.cs     under  Scenes/Night.cs   what was written before

A compilation hands over the same files whatever the memory has, so a memory after any calls is
what it was before and their files (`Memory.files_foldl_run`), and every question about what it
has is one about that list (`Memory.last_file_wins`).
-/
import StoryScript.Proofs.Compilation.Replay
import StoryScript.Proofs.Path.Spelling

namespace StoryScript.Memory

variable {m : Memory} {path : Path}

/-! ## What is under a path -/

theorem get?_eq_some_iff {code : Text} :
    m.get? path = some code ↔ ∃ front p back, m.files = front ++ (p, code) :: back ∧
      p.components = path.components ∧ ∀ f ∈ back, f.1.components ≠ path.components := by
  rw [get?, Option.map_eq_some_iff]
  constructor
  · rintro ⟨⟨p, _⟩, hfind, rfl⟩
    obtain ⟨hp, back, front, hfiles, hback⟩ := List.find?_eq_some_iff_append.mp hfind
    refine ⟨front.reverse, p, back.reverse, ?_, beq_iff_eq.mp hp, ?_⟩
    · rw [List.reverse_eq_iff.mp hfiles, List.reverse_append, List.reverse_cons, List.append_assoc]
      rfl
    · intro f hf
      simpa using hback f (List.mem_reverse.mp hf)
  · rintro ⟨front, p, back, hfiles, hp, hback⟩
    refine ⟨(p, code), List.find?_eq_some_iff_append.mpr
      ⟨beq_iff_eq.mpr hp, back.reverse, front.reverse, ?_, ?_⟩, rfl⟩
    · rw [hfiles, List.reverse_append, List.reverse_cons, List.append_assoc]
      rfl
    · intro f hf
      simpa using hback f (List.mem_reverse.mp hf)

theorem get?_eq_none_iff :
    m.get? path = none ↔ ∀ f ∈ m.files, f.1.components ≠ path.components := by
  simp only [get?, Option.map_eq_none_iff, List.find?_eq_none, List.mem_reverse, beq_iff_eq, ne_eq]

/-- A file that is written is what is under every spelling of its path, and under no other path. -/
theorem get?_write (m : Memory) (p : Path) (code : Text) (path : Path) :
    (Sink.write m p code).2.get? path =
      if p.components = path.components then some code else m.get? path := by
  show Option.map (·.2) ((m.files ++ [(p, code)]).reverse.find? _) = _
  rw [List.reverse_append, List.reverse_singleton, List.singleton_append, List.find?_cons]
  split
  · rename_i hsame
    exact (if_pos (beq_iff_eq.mp hsame)).symm
  · rename_i hother
    exact (if_neg (beq_eq_false_iff_ne.mp hother)).symm

/-! ## Calls -/

/-- What can happen to a memory: a file is written to it, or a script is compiled into it that
may not even open. -/
inductive Call where
  | write (path : Path) (code : Text)
  | compile (cfg : Config) (origin : Path) (opened : Except IoCause Source)

/-- The memory after a call. -/
def run (m : Memory) : Call → Memory
  | .write path code => (Sink.write m path code).2
  | .compile cfg origin opened => (compileOpened cfg origin opened m).2.sink

/-- The files that are written in a call, by the record of a sink that keeps nothing else. -/
def Call.written : Call → List (Path × Text)
  | .write path code => [(path, code)]
  | .compile cfg origin opened =>
    (compileOpened cfg origin opened (⟨{}, []⟩ : Recorded Memory)).2.sink.files

theorem writeAll_eq (m : Memory) (files : List (Path × Text)) :
    Sink.writeAll m files = (.ok (), ⟨m.files ++ files⟩) := by
  induction files generalizing m with
  | nil =>
      rw [List.append_nil]
      rfl
  | cons f rest ih =>
      have hwrite : Sink.write m f.1 f.2 = (.ok (), ⟨m.files ++ [f]⟩) := rfl
      rw [Sink.writeAll_cons_of_ok hwrite, ih, List.append_assoc]
      rfl

/-- What a compilation hands over does not depend on what the memory has. -/
theorem compileOpened_eq (cfg : Config) (origin : Path) (opened : Except IoCause Source)
    (m : Memory) :
    let whole := compileOpened cfg origin opened ({} : Memory)
    compileOpened cfg origin opened m =
      (whole.1, { whole.2 with sink := ⟨m.files ++ whole.2.sink.files⟩ }) := by
  intro whole
  rcases compileOpened_replayed cfg origin opened m with ⟨b, htaken, hsame⟩ | ⟨_, _, hrefused, -⟩
  · rw [writeAll_eq] at htaken
    cases htaken
    exact hsame
  · rw [writeAll_eq] at hrefused
    cases hrefused

theorem written_compile (cfg : Config) (origin : Path) (opened : Except IoCause Source) :
    (Call.compile cfg origin opened).written =
      (compileOpened cfg origin opened ({} : Memory)).2.sink.files := by
  rcases hwhole : compileOpened cfg origin opened ({} : Memory) with ⟨result, t⟩
  have hrecorded := compileOpened_recorded hwhole (writeAll_eq {} t.sink.files)
  rw [Call.written, hrecorded]

theorem files_run (m : Memory) (call : Call) : (m.run call).files = m.files ++ call.written := by
  cases call with
  | write path code => rfl
  | compile cfg origin opened => rw [run, compileOpened_eq, written_compile]

theorem files_foldl_run (m : Memory) (calls : List Call) :
    (calls.foldl run m).files = m.files ++ calls.flatMap Call.written := by
  induction calls generalizing m with
  | nil => exact (List.append_nil _).symm
  | cons call rest ih =>
      rw [List.foldl_cons, ih, files_run, List.flatMap_cons, List.append_assoc]

/-- **The last file written to a place is what a memory has there.**  Whatever calls there have
been, to write a file or to compile a script, and however they have ended, the memory has the
files that it had and those of the calls, in order.  Under a path is the last of them whose
path has the same components, and nothing if there is none.

So a further file is seen under every path that idle slashes and dots keep apart from its own,
and changes nothing under any other one: not if one of them starts at the root and the other
does not, or at a dot, or if the names and double dots on them differ. -/
theorem last_file_wins (m : Memory) (calls : List Call) :
    let after := calls.foldl run m
    let files := m.files ++ calls.flatMap Call.written
    after.files = files ∧
    (∀ path code, after.get? path = some code ↔ ∃ front p back, files = front ++ (p, code) :: back ∧
      p.components = path.components ∧ ∀ f ∈ back, f.1.components ≠ path.components) ∧
    (∀ path, after.get? path = none ↔ ∀ f ∈ files, f.1.components ≠ path.components) ∧
    (∀ p path : Path, p.components = path.components ↔ Path.Alike p.text path.text) ∧
    ∀ p code path,
      let further := after.run (.write p code)
      (Path.Alike p.text path.text → further.get? path = some code) ∧
      (¬ Path.Alike p.text path.text → further.get? path = after.get? path) ∧
      (¬ (p.text.head? = some '/' ↔ path.text.head? = some '/') →
        further.get? path = after.get? path) ∧
      (¬ ((Path.segments p.text).head? = some ['.'] ↔
          (Path.segments path.text).head? = some ['.']) →
        further.get? path = after.get? path) ∧
      (Path.names p.text ≠ Path.names path.text → further.get? path = after.get? path) := by
  intro after files
  have hfiles : after.files = files := files_foldl_run m calls
  refine ⟨hfiles, ?_, ?_, fun _ _ => Path.components_eq_iff_alike, ?_⟩
  · intro path code
    rw [← hfiles]
    exact get?_eq_some_iff
  · intro path
    rw [← hfiles]
    exact get?_eq_none_iff
  · intro p code path further
    have hsame (h : Path.Alike p.text path.text) : further.get? path = some code :=
      (get?_write after p code path).trans (if_pos (Path.components_eq_iff_alike.mpr h))
    have hother (h : p.components ≠ path.components) : further.get? path = after.get? path :=
      (get?_write after p code path).trans (if_neg h)
    refine ⟨hsame, ?_, ?_, ?_, ?_⟩
    · intro hapart
      exact hother (mt Path.components_eq_iff_alike.mp hapart)
    · intro hroot
      exact hother fun h => hroot (Path.components_eq_iff_names.mp h).1
    · intro hhere
      exact hother fun h => hhere (Path.components_eq_iff_names.mp h).2.1
    · intro hnames
      exact hother fun h => hnames (Path.components_eq_iff_names.mp h).2.2

/-- A scene that is written over under another spelling, when its script has failed. -/
example :
    let script := "# Script\n## Night\nBob: Hi.\n## Day\n## Day\n".toList
    let calls := [Call.compile {} unnamedOrigin (.ok (.ofText script)),
      .write ⟨"Scenes//./Night.cs".toList⟩ ['c'], .write ⟨"./Scenes/Night.cs".toList⟩ ['d']]
    (calls.foldl run {}).get? ⟨"Scenes/Night.cs/".toList⟩ = some ['c'] := by
  rfl

end StoryScript.Memory
