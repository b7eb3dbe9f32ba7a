/-
# `StoryScript.Proofs.Compilation.Cut` — a compilation whose sink refuses a file

When the sink refuses a file, that is the end of the compilation: no other file is
tried, and what was taken before stays.  So the files of such a compilation are the
first ones of the compilation into memory, which is never refused anything:

    into memory     W₀  W₁  ...  Wₖ₋₁  Wₖ  ...
    attempted       W₀  W₁  ...  Wₖ₋₁  Wₖ
    kept            W₀  W₁  ...  Wₖ₋₁

A refusal that would come after the last file does not come at all, and then the two
compilations end alike, be it well or with a failure of the script
(`compile_refusing`).
-/
import StoryScript.Proofs.Compilation.Lockstep

namespace StoryScript

namespace Planned

/-- The sink that refuses the attempt with the number `k`, on its own path. -/
def refusing (k : Nat) (cause : IoCause) : Planned where
  plan n path := if n = k then some ⟨path, cause⟩ else none

variable {k : Nat} {cause : IoCause} {p : Planned} {m : Memory}

/-! ## Before and after the refusal -/

/-- The refusal is still to come. -/
structure Uncut (k : Nat) (cause : IoCause) (p : Planned) (m : Memory) : Prop where
  plan : p.plan = (refusing k cause).plan
  attempts : p.attempts = m.files
  kept : p.kept = m.files
  early : m.files.length ≤ k

/-- The refusal has come, and the memory may have got more files since. -/
structure CutOff (k : Nat) (cause : IoCause) (failure : IoFailure) (p : Planned) (m : Memory) :
    Prop where
  refused : ∃ code, m.files[k]? = some (failure.path, code)
  blamed : failure.cause = cause
  attempts : p.attempts = m.files.take (k + 1)
  kept : p.kept = m.files.take k

theorem uncut_start (k : Nat) (cause : IoCause) : Uncut k cause (refusing k cause) {} where
  plan := rfl
  attempts := rfl
  kept := rfl
  early := Nat.zero_le k

theorem Uncut.write_last (h : Uncut k cause p m) (hk : m.files.length = k) (path : Path)
    (code : Text) :
    ∃ p', Sink.write p path code = (.error ⟨path, cause⟩, p') ∧
      CutOff k cause ⟨path, cause⟩ p' (Sink.write m path code).2 := by
  have hplan : p.plan p.attempts.length path = some ⟨path, cause⟩ := by
    rw [h.plan, h.attempts, hk]
    exact if_pos rfl
  refine ⟨_, write_of_some hplan code, ⟨code, ?_⟩, rfl, ?_, ?_⟩
  · rw [← hk]
    exact List.getElem?_concat_length
  · rw [h.attempts, ← hk, List.take_of_length_le]
    · rfl
    · exact List.length_append.le
  · rw [h.kept, ← hk]
    exact List.take_left.symm

theorem Uncut.write_early (h : Uncut k cause p m) (hk : m.files.length ≠ k) (path : Path)
    (code : Text) :
    ∃ p', Sink.write p path code = (.ok (), p') ∧ Uncut k cause p' (Sink.write m path code).2 := by
  have hplan : p.plan p.attempts.length path = none := by
    rw [h.plan, h.attempts]
    exact if_neg hk
  refine ⟨_, write_of_none hplan code, h.plan, ?_, ?_, ?_⟩
  · rw [h.attempts]
    rfl
  · rw [h.kept]
    rfl
  · have hearly := h.early
    simp only [Sink.write, List.length_append, List.length_singleton]
    omega

theorem CutOff.write {failure : IoFailure} (h : CutOff k cause failure p m) (path : Path)
    (code : Text) : CutOff k cause failure p (Sink.write m path code).2 := by
  obtain ⟨refused, hrefused⟩ := h.refused
  have hk : k < m.files.length := (List.getElem?_eq_some_iff.mp hrefused).1
  refine ⟨⟨refused, ?_⟩, h.blamed, ?_, ?_⟩
  · rw [← hrefused]
    exact List.getElem?_append_left hk
  · rw [h.attempts]
    exact (List.take_append_of_le_length hk).symm
  · rw [h.kept]
    exact (List.take_append_of_le_length hk.le).symm

/-- A sink that refuses one attempt goes together with the memory up to then. -/
def refusal (k : Nat) (cause : IoCause) : Lockstep Planned Memory where
  agree := Uncut k cause
  parted := CutOff k cause
  write_of_agree := by
    intro p m h path code
    by_cases hk : m.files.length = k
    · obtain ⟨p', hwrite, hcut⟩ := h.write_last hk path code
      exact Or.inr ⟨_, p', hwrite, hcut⟩
    · obtain ⟨p', hwrite, huncut⟩ := h.write_early hk path code
      exact Or.inl ⟨p', _, hwrite, rfl, huncut⟩
  write_of_parted := fun h path code => h.write path code

/-- Where a memory has a file with the number `k`, a sink that refuses the attempt `k` fails for
this file and keeps those before it; where it has none, the sink comes to the same as the memory.
-/
theorem cut_of_together {α : Type} {o : Outcome Planned α} {o' : Outcome Memory α}
    (h : (refusal k cause).Together o o') :
    (∀ path code, o'.2.sink.files[k]? = some (path, code) →
      o.1 = .error (.io ⟨path, cause⟩) ∧ o.2.sink.kept = o'.2.sink.files.take k ∧
        o.2.sink.attempts = o'.2.sink.files.take (k + 1)) ∧
    (o'.2.sink.files.length ≤ k →
      o.1 = o'.1 ∧ o.2.sink.kept = o'.2.sink.files ∧ o.2.sink.attempts = o'.2.sink.files) := by
  cases h with
  | same huncut =>
      constructor
      · intro path code hfile
        have hk := (List.getElem?_eq_some_iff.mp hfile).1
        exact absurd hk (Nat.not_lt.mpr huncut.early)
      · intro _
        exact ⟨rfl, huncut.kept, huncut.attempts⟩
  | @parted failure s _ hcut =>
      obtain ⟨refused, hrefused⟩ := hcut.refused
      constructor
      · intro path code hfile
        rw [hrefused, Option.some.injEq, Prod.mk.injEq] at hfile
        refine ⟨?_, hcut.kept, hcut.attempts⟩
        rw [← hfile.1, ← hcut.blamed]
      · intro hshort
        have hk := (List.getElem?_eq_some_iff.mp hrefused).1
        exact absurd hk (Nat.not_lt.mpr hshort)

end Planned

/-! ## The whole compilation -/

/-- **A refused file cuts the output off.**  Let `written` be the files that a
compilation writes into memory.  If the sink refuses the attempt with the number `k` and
there is a file with this number, the failure names its path, the files before it are
kept, and it is the last that is attempted.  If there is none, nothing is different. -/
theorem compile_refusing (cfg : Config) (origin : Path) (source : Source) (k : Nat)
    (cause : IoCause) :
    let whole := compile cfg origin source ({} : Memory)
    let cut := compile cfg origin source (Planned.refusing k cause)
    let written := whole.2.sink.files
    (∀ path code, written[k]? = some (path, code) →
      cut.1 = .error (.io ⟨path, cause⟩) ∧ cut.2.sink.kept = written.take k ∧
        cut.2.sink.attempts = written.take (k + 1)) ∧
    (written.length ≤ k →
      cut.1 = whole.1 ∧ cut.2.sink.kept = written ∧ cut.2.sink.attempts = written) :=
  Planned.cut_of_together
    ((Planned.refusal k cause).compile cfg origin source (Planned.uncut_start k cause))

/-- One scene, and then its name again: a refusal of the scene's file comes before the
failure of the script, a later one does not come. -/
theorem compile_refusing_repeated_scene :
    let source := Source.ofText "# Script\n## Day\n---\n## Day\n".toList
    let cause := IoCause.other "disk full".toList
    let day : Path × Text := (⟨"Scenes/Day.cs".toList⟩, Code.sceneClass "Day".toList [.pause])
    let cut (k : Nat) := compile {} unnamedOrigin source (Planned.refusing k cause)
    (cut 0).1 = .error (.io ⟨day.1, cause⟩) ∧ (cut 0).2.sink.kept = [] ∧
      (cut 0).2.sink.attempts = [day] ∧
      (cut 1).1 = .error (.duplicateScene "Day".toList) ∧ (cut 1).2.sink.kept = [day] ∧
      (cut 1).2.sink.attempts = [day] := by
  intro source cause day cut
  have hwhole : (compile {} unnamedOrigin source ({} : Memory)).1 =
      .error (.duplicateScene "Day".toList) := rfl
  have hfiles : (compile {} unnamedOrigin source ({} : Memory)).2.sink.files = [day] := rfl
  obtain ⟨hfirst, -⟩ := compile_refusing {} unnamedOrigin source 0 cause
  obtain ⟨-, hnone⟩ := compile_refusing {} unnamedOrigin source 1 cause
  rw [hfiles] at hfirst hnone
  rw [hwhole] at hnone
  obtain ⟨hcut₀, hkept₀, htried₀⟩ := hfirst day.1 day.2 rfl
  obtain ⟨hcut₁, hkept₁, htried₁⟩ := hnone (Nat.le_refl 1)
  exact ⟨hcut₀, hkept₀, htried₀, hcut₁, hkept₁, htried₁⟩

end StoryScript
