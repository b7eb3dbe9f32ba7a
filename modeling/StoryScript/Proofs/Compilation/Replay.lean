/-
# `StoryScript.Proofs.Compilation.Replay` — a compilation as a list of files

A memory refuses nothing, so what a compilation has left in one is the list of all its
files.  A compilation into another sink writes the same files in the same order, and ends
with the first one that the sink refuses:

    into memory          file 1   file 2   ...   file n    the result
    into another sink    file 1   ...   file k             the refusal

So to know a compilation into any sink it is enough to know the one into memory and what
the sink makes of a list of files (`Sink.writeAll`, `compile_replayed`).
-/
import StoryScript.Proofs.Compilation.Lockstep

namespace StoryScript

open Session

/-! ## A list of files -/

namespace Sink

variable {σ : Type} [Sink σ]

/-- Writes files one after the other, until one is refused. -/
def writeAll (a : σ) : List (Path × Text) → Except IoFailure Unit × σ
  | [] => (.ok (), a)
  | (path, code) :: rest =>
    match write a path code with
    | (.ok (), a) => writeAll a rest
    | (.error failure, a) => (.error failure, a)

variable {a b : σ} {path : Path} {code : Text} {rest : List (Path × Text)}

theorem writeAll_cons_of_ok (h : write a path code = (.ok (), b)) :
    writeAll a ((path, code) :: rest) = writeAll b rest := by
  simp only [writeAll, h]

theorem writeAll_cons_of_error {failure : IoFailure} (h : write a path code = (.error failure, b)) :
    writeAll a ((path, code) :: rest) = (.error failure, b) := by
  simp only [writeAll, h]

theorem exists_of_writeAll_cons_eq_ok (h : writeAll a ((path, code) :: rest) = (.ok (), b)) :
    ∃ c, write a path code = (.ok (), c) ∧ writeAll c rest = (.ok (), b) := by
  rcases hwrite : write a path code with ⟨failure | _, c⟩
  · rw [writeAll_cons_of_error hwrite] at h
    cases h
  · rw [writeAll_cons_of_ok hwrite] at h
    exact ⟨c, rfl, h⟩

theorem writeAll_append_of_ok {files : List (Path × Text)} (h : writeAll a files = (.ok (), b))
    (rest : List (Path × Text)) : writeAll a (files ++ rest) = writeAll b rest := by
  induction files generalizing a with
  | nil =>
      cases h
      rfl
  | cons file more ih =>
      obtain ⟨c, hwrite, hmore⟩ := exists_of_writeAll_cons_eq_ok h
      rw [List.cons_append, writeAll_cons_of_ok hwrite]
      exact ih hmore

theorem writeAll_append_of_error {files : List (Path × Text)} {failure : IoFailure}
    (h : writeAll a files = (.error failure, b)) (rest : List (Path × Text)) :
    writeAll a (files ++ rest) = (.error failure, b) := by
  induction files generalizing a with
  | nil => cases h
  | cons file more ih =>
      rw [List.cons_append]
      rcases hwrite : write a file.1 file.2 with ⟨refusal | _, c⟩
      · rw [writeAll_cons_of_error hwrite] at h ⊢
        exact h
      · rw [writeAll_cons_of_ok hwrite] at h ⊢
        exact ih h

end Sink

/-! ## The files of a compilation -/

variable {σ : Type} [Sink σ]

/-- A sink goes together with a memory that starts empty as long as it takes the files that
the memory has. -/
def Lockstep.replaying (a : σ) : Lockstep σ Memory where
  agree b m := Sink.writeAll a m.files = (.ok (), b)
  parted failure b m := Sink.writeAll a m.files = (.error failure, b)
  write_of_agree := by
    intro b m hagree path code
    rcases hwrite : Sink.write b path code with ⟨failure | _, c⟩
    · refine Or.inr ⟨failure, c, rfl, ?_⟩
      exact (Sink.writeAll_append_of_ok hagree _).trans (Sink.writeAll_cons_of_error hwrite)
    · refine Or.inl ⟨c, ⟨m.files ++ [(path, code)]⟩, rfl, rfl, ?_⟩
      exact (Sink.writeAll_append_of_ok hagree _).trans (Sink.writeAll_cons_of_ok hwrite)
  write_of_parted := fun hparted _ _ => Sink.writeAll_append_of_error hparted _

/-- **A compilation into a sink is the one into memory, replayed.**  Either the sink takes all
its files, and the two differ in nothing else; or it refuses one, and then that is the
failure, and the sink is what the files before it and the refusal have made of it. -/
theorem compile_replayed (cfg : Config) (origin : Path) (source : Source) (a : σ) :
    let whole := compile cfg origin source ({} : Memory)
    (∃ b, Sink.writeAll a whole.2.sink.files = (.ok (), b) ∧
      compile cfg origin source a = (whole.1, { whole.2 with sink := b })) ∨
    ∃ failure s, Sink.writeAll a whole.2.sink.files = (.error failure, s.sink) ∧
      compile cfg origin source a = (.error (.io failure), s) := by
  intro whole
  have h : (Lockstep.replaying a).Together (compile cfg origin source a) whole :=
    Lockstep.compile (Lockstep.replaying a) cfg origin source rfl
  generalize compile cfg origin source a = o at h
  generalize whole = w at h
  cases h with
  | @same result s m hagree => exact Or.inl ⟨s.sink, hagree, rfl⟩
  | @parted failure s w hparted => exact Or.inr ⟨failure, s, hparted, rfl⟩

theorem compileOpened_replayed (cfg : Config) (origin : Path) (opened : Except IoCause Source)
    (a : σ) :
    let whole := compileOpened cfg origin opened ({} : Memory)
    (∃ b, Sink.writeAll a whole.2.sink.files = (.ok (), b) ∧
      compileOpened cfg origin opened a = (whole.1, { whole.2 with sink := b })) ∨
    ∃ failure s, Sink.writeAll a whole.2.sink.files = (.error failure, s.sink) ∧
      compileOpened cfg origin opened a = (.error (.io failure), s) := by
  cases opened with
  | error cause => exact Or.inl ⟨a, rfl, rfl⟩
  | ok source => exact compile_replayed cfg origin source a

/-! ## A sink with a record -/

/-- A sink, and the files that it has taken in their order. -/
structure Recorded (σ : Type) where
  sink : σ
  files : List (Path × Text) := []

/-- The record does not change what is taken. -/
def Recorded.write (a : Recorded σ) (path : Path) (code : Text) :
    Except IoFailure Unit × Recorded σ :=
  match Sink.write a.sink path code with
  | (.ok (), b) => (.ok (), ⟨b, a.files ++ [(path, code)]⟩)
  | (.error failure, b) => (.error failure, { a with sink := b })

instance : Sink (Recorded σ) := ⟨Recorded.write⟩

namespace Recorded

variable {a b : σ} {path : Path} {code : Text} {files : List (Path × Text)}

theorem write_of_ok (h : Sink.write a path code = (.ok (), b)) (before : List (Path × Text)) :
    Sink.write (⟨a, before⟩ : Recorded σ) path code =
      (.ok (), ⟨b, before ++ [(path, code)]⟩) := by
  show Recorded.write ⟨a, before⟩ path code = _
  simp only [Recorded.write, h]

theorem writeAll_of_ok (h : Sink.writeAll a files = (.ok (), b)) (before : List (Path × Text)) :
    Sink.writeAll (⟨a, before⟩ : Recorded σ) files = (.ok (), ⟨b, before ++ files⟩) := by
  induction files generalizing a before with
  | nil =>
      cases h
      rw [List.append_nil]
      rfl
  | cons file rest ih =>
      obtain ⟨c, hwrite, hrest⟩ := Sink.exists_of_writeAll_cons_eq_ok h
      rw [Sink.writeAll_cons_of_ok (write_of_ok hwrite before), ih hrest, List.append_assoc]
      rfl

end Recorded

/-- The files of a compilation into memory are the record of one into any sink that takes
them all. -/
theorem compileOpened_recorded {cfg : Config} {origin : Path} {opened : Except IoCause Source}
    {a b : σ} {result : Except Failure Report} {t : Session Memory}
    (hmemory : compileOpened cfg origin opened ({} : Memory) = (result, t))
    (hwrite : Sink.writeAll a t.sink.files = (.ok (), b)) :
    compileOpened cfg origin opened (⟨a, []⟩ : Recorded σ) =
      (result, { t with sink := ⟨b, t.sink.files⟩ }) := by
  have hrecorded := Recorded.writeAll_of_ok hwrite []
  rcases compileOpened_replayed cfg origin opened (⟨a, []⟩ : Recorded σ) with
    ⟨c, htaken, hsame⟩ | ⟨failure, s, hrefused, -⟩
  · rw [hmemory] at htaken hsame
    rw [hrecorded] at htaken
    cases htaken
    exact hsame
  · rw [hmemory, hrecorded] at hrefused
    cases hrefused

/-! ## The files of a report -/

namespace Session

variable {cfg : Config} {s t : Session σ} {r : Report}

theorem eq_report_of_writeHelpers_eq_ok (h : s.writeHelpers cfg = (.ok r, t)) : r = t.report := by
  rw [writeHelpers_eq_andThen] at h
  rcases Outcome.andThen_cases _ _ with ⟨failure, hfailed⟩ | hwritten
  · rw [hfailed] at h
    cases h
  · rw [hwritten] at h
    rcases Outcome.andThen_cases _ _ with ⟨failure, hfailed⟩ | hwritten
    · rw [hfailed] at h
      cases h
    · rw [hwritten] at h
      cases h
      rfl

theorem eq_report_of_finish_eq_ok (h : s.finish cfg = (.ok r, t)) : r = t.report := by
  by_cases hp : s.progress.phase = .searching
  · rw [finish_of_searching hp] at h
    cases h
  · rw [finish_eq_andThen hp] at h
    rcases Outcome.andThen_cases (s.closeScene cfg) _ with ⟨failure, hfailed⟩ | hclosed
    · rw [hfailed] at h
      cases h
    · rw [hclosed] at h
      exact eq_report_of_writeHelpers_eq_ok h

theorem eq_report_of_finishAfter_eq_ok {o : Outcome σ Unit} (h : finishAfter cfg o = (.ok r, t)) :
    r = t.report := by
  rw [finishAfter_eq_andThen] at h
  rcases Outcome.andThen_cases o _ with ⟨failure, hfailed⟩ | hfed
  · rw [hfailed] at h
    cases h
  · rw [hfed] at h
    exact eq_report_of_finish_eq_ok h

end Session

theorem Memory.keptByWrites_paths :
    KeptByWrites fun (m : Memory) files => m.files.map (·.1) = files := by
  intro s path code h
  show (s.sink.files ++ [(path, code)]).map (·.1) = s.progress.files ++ [path]
  rw [List.map_append, h]
  rfl

section

variable {cfg : Config} {origin : Path} {opened : Except IoCause Source} {r : Report}

theorem eq_report_of_compileOpened_eq_ok {a : σ} {s : Session σ}
    (h : compileOpened cfg origin opened a = (.ok r, s)) : r = s.report := by
  cases opened with
  | error cause => cases h
  | ok source => exact eq_report_of_finishAfter_eq_ok h

theorem paths_of_compileOpened_eq_ok {s : Session Memory}
    (h : compileOpened cfg origin opened ({} : Memory) = (.ok r, s)) :
    s.sink.files.map (·.1) = r.files := by
  rw [eq_report_of_compileOpened_eq_ok h]
  cases opened with
  | error cause => cases h
  | ok source =>
      have hlisted : (compile cfg origin source ({} : Memory)).2.Satisfies
          fun m files => m.files.map (·.1) = files := by
        refine Memory.keptByWrites_paths.run cfg origin source ?_
        rfl
      have hsame : compile cfg origin source ({} : Memory) = (.ok r, s) := h
      rw [hsame] at hlisted
      exact hlisted

end

end StoryScript
