/-
# `StoryScript.Proofs.Compilation.Live` — a script that might be written over

A script that lies where files are written is read while it may change.  Which files are
written is known at the end only, and known then of every turn before, since the list of
written files grows and never shrinks.  So a compilation whose list stays clear of the
script in the end has read what the script held at first (`compileLive_eq_compile`), and so
has one that would stay clear of it if it read that (`compileLive_eq_compile_of_steady`).

Both come from one comparison, of two views of what the script holds (`Session.runFrom_congr`).
-/
import StoryScript.Cursor.Steady
import StoryScript.Proofs.Compilation.Writes

namespace StoryScript

open Session

variable {σ : Type} [Sink σ]

/-! ## Reading from a place on -/

namespace KeptByWrites

variable {P : σ → List Path → Prop} {s : Session σ}

theorem feedFrom (h : KeptByWrites P) (cfg : Config) (origin : Path) (contents : σ → Bytes)
    (turns : Nat) (c : Cursor) (hs : s.Satisfies P) :
    (Session.feedFrom cfg origin contents turns c s).2.Satisfies P := by
  induction turns generalizing c s with
  | zero => exact hs
  | succ turns ih =>
      rw [Session.feedFrom]
      split
      · exact hs
      · split
        · exact hs
        · rename_i line _
          have hfed := h.feed cfg (if c.atStart then Source.unmarkedLine line else line) hs
          split
          · rename_i hfeed
            rwa [hfeed] at hfed
          · rename_i hfeed
            rw [hfeed] at hfed
            split
            · exact hfed
            · exact ih _ hfed

theorem files_prefix (listed : List Path) :
    KeptByWrites fun (_ : σ) files => listed <+: files := by
  intro s path code h
  have hlisted : listed <+: s.progress.files := h
  rw [Session.write]
  split
  · exact hlisted.trans (List.prefix_append _ _)
  · exact hlisted

end KeptByWrites

/-! ## Two views of a script -/

section

variable {P : σ → List Path → Prop} {Clear : Path → Prop} {first second : σ → Bytes}
  {cfg : Config} {origin : Path} {s : Session σ}

namespace Session

/-- Two views of a script yield the same lines if they agree as long as the listed files are
clear of it, and the files that are listed in the end are. -/
theorem feedFrom_congr (h : KeptByWrites P)
    (hviews : ∀ a files, P a files → (∀ p ∈ files, Clear p) → first a = second a) {turns : Nat}
    {c : Cursor} (hs : s.Satisfies P)
    (hclear : ∀ p ∈ (feedFrom cfg origin first turns c s).2.progress.files, Clear p) :
    feedFrom cfg origin second turns c s = feedFrom cfg origin first turns c s := by
  induction turns generalizing c s with
  | zero => rfl
  | succ turns ih =>
      have hgrown : s.progress.files <+:
          (feedFrom cfg origin first (turns + 1) c s).2.progress.files :=
        (KeptByWrites.files_prefix s.progress.files).feedFrom cfg origin first (turns + 1) c
          (List.prefix_refl _)
      have hsame : first s.sink = second s.sink :=
        hviews _ _ hs fun p hp => hclear p (hgrown.subset hp)
      rw [feedFrom] at hclear
      rw [feedFrom, feedFrom, ← hsame]
      split
      · rfl
      · rename_i bytes next hnext
        rw [hnext] at hclear
        dsimp only at hclear
        split
        · rfl
        · rename_i line hline
          rw [hline] at hclear
          dsimp only at hclear
          have hfed := h.feed cfg (if c.atStart then Source.unmarkedLine line else line) hs
          split
          · rfl
          · rename_i t hfeed
            rw [hfeed] at hclear hfed
            dsimp only at hclear
            split
            · rfl
            · rename_i hdone
              rw [if_neg hdone] at hclear
              exact ih hfed hclear

theorem runFrom_congr (h : KeptByWrites P)
    (hviews : ∀ a files, P a files → (∀ p ∈ files, Clear p) → first a = second a)
    (hs : s.Satisfies P)
    (hclear : ∀ p ∈ (s.runFrom cfg origin first).2.progress.files, Clear p) :
    s.runFrom cfg origin second = s.runFrom cfg origin first := by
  have hgrown : s.progress.files <+: (s.runFrom cfg origin first).2.progress.files :=
    (KeptByWrites.files_prefix s.progress.files).finishAfter cfg
      ((KeptByWrites.files_prefix _).feedFrom cfg origin first _ _ (List.prefix_refl _))
  have hsame : first s.sink = second s.sink :=
    hviews _ _ hs fun p hp => hclear p (hgrown.subset hp)
  have hfinished (o : Outcome σ Unit) :
      o.2.progress.files <+: (finishAfter cfg o).2.progress.files :=
    (KeptByWrites.files_prefix _).finishAfter cfg (List.prefix_refl _)
  rw [runFrom, runFrom, ← hsame]
  refine congrArg (finishAfter cfg) (feedFrom_congr h hviews hs fun p hp => ?_)
  exact hclear p ((hfinished _).subset hp)

end Session

end

/-! ## A script that is not written over -/

section

variable {P : σ → List Path → Prop} {Clear : Path → Prop} {contents : σ → Bytes} {script : Bytes}
  {cfg : Config} {origin : Path} {a : σ}

theorem compileLive_const (cfg : Config) (origin : Path) (script : Bytes) (a : σ) :
    compileLive cfg origin (fun _ => script) a = compile cfg origin ⟨script, none⟩ a :=
  Session.runFrom_eq_run (P := fun _ => True) (fun _ _ => rfl) (fun _ _ _ => trivial) _ trivial

/-- **A compilation whose files stay clear of its script** compiles what the script held at
first. -/
theorem compileLive_eq_compile (h : KeptByWrites P)
    (hview : ∀ a files, P a files → (∀ p ∈ files, Clear p) → contents a = script) (ha : P a [])
    (hclear : ∀ p ∈ (compileLive cfg origin contents a).2.progress.files, Clear p) :
    compileLive cfg origin contents a = compile cfg origin ⟨script, none⟩ a := by
  rw [← compileLive_const]
  exact (Session.runFrom_congr (s := { sink := a }) h hview ha hclear).symm

/-- It suffices that the files stay clear of the script in a compilation of what it held at
first. -/
theorem compileLive_eq_compile_of_steady (h : KeptByWrites P)
    (hview : ∀ a files, P a files → (∀ p ∈ files, Clear p) → contents a = script) (ha : P a [])
    (hclear : ∀ p ∈ (compile cfg origin ⟨script, none⟩ a).2.progress.files, Clear p) :
    compileLive cfg origin contents a = compile cfg origin ⟨script, none⟩ a := by
  rw [← compileLive_const] at hclear ⊢
  exact Session.runFrom_congr (s := { sink := a }) h
    (fun b files hb hfiles => (hview b files hb hfiles).symm) ha hclear

end

end StoryScript
