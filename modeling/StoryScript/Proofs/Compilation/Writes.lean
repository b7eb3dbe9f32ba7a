/-
# `StoryScript.Proofs.Compilation.Writes` — what holds from write to write

A session reaches its sink in one place only, `Session.write`, which also lists the file
if the sink has taken it.  So a property of the two, the sink and the list, that every
write keeps is kept by every action of the session, failing or not:

    write  ⊂  closeScene  ⊂  openScene  ⊂  feed  ⊂  feedAll  ⊂  run
           ⊂  writeHelpers  ⊂  finish  ⊂  run

The sink that fails by plan does so or not by the number of the attempt and its path;
either way the attempt is counted.
-/
import StoryScript.Proofs.Compilation.Step

namespace StoryScript

open Session

/-! ## Writing by plan -/

namespace Planned

variable {p : Planned} {path : Path}

theorem write_of_none (h : p.plan p.attempts.length path = none) (code : Text) :
    Sink.write p path code = (.ok (), { p with
      attempts := p.attempts ++ [(path, code)]
      kept := p.kept ++ [(path, code)] }) := by
  simp only [Sink.write, h]

theorem write_of_some {failure : IoFailure} (h : p.plan p.attempts.length path = some failure)
    (code : Text) :
    Sink.write p path code =
      (.error failure, { p with attempts := p.attempts ++ [(path, code)] }) := by
  simp only [Sink.write, h]

end Planned

/-! ## From write to write -/

/-- The sink and the list of files have the property. -/
def Session.Satisfies {σ : Type} (P : σ → List Path → Prop) (s : Session σ) : Prop :=
  P s.sink s.progress.files

theorem Outcome.satisfies_andThen {σ α : Type} {P : σ → List Path → Prop} {o : Outcome σ Unit}
    {next : Session σ → Outcome σ α} (ho : o.2.Satisfies P)
    (hnext : ∀ s, s.Satisfies P → (next s).2.Satisfies P) :
    (o.andThen next).2.Satisfies P := by
  rcases o.andThen_cases next with ⟨failure, h⟩ | h
  · rw [h]
    exact ho
  · rw [h]
    exact hnext _ ho

/-- No write destroys the property, whether it fails or not. -/
def KeptByWrites {σ : Type} [Sink σ] (P : σ → List Path → Prop) : Prop :=
  ∀ (s : Session σ) path code, s.Satisfies P → (s.write path code).2.Satisfies P

namespace KeptByWrites

variable {σ : Type} [Sink σ] {P : σ → List Path → Prop} {s : Session σ}

theorem closeScene (h : KeptByWrites P) (cfg : Config) (hs : s.Satisfies P) :
    (s.closeScene cfg).2.Satisfies P := by
  cases hd : s.progress.draft with
  | none =>
      rw [closeScene_of_none hd]
      exact hs
  | some d =>
      rw [closeScene_of_some hd]
      refine h _ _ _ ?_
      exact hs

theorem openScene (h : KeptByWrites P) (cfg : Config) (heading : Text) (hs : s.Satisfies P) :
    (s.openScene cfg heading).2.Satisfies P := by
  rw [openScene_eq_andThen]
  refine Outcome.satisfies_andThen ?_ ?_
  · refine h.closeScene cfg ?_
    exact hs
  · intro t ht
    rwa [Satisfies, sink_beginScene, files_beginScene]

theorem feed (h : KeptByWrites P) (cfg : Config) (text : Text) (hs : s.Satisfies P) :
    (s.feed cfg text).2.Satisfies P := by
  unfold Session.feed
  split
  · split
    · exact hs
    · exact hs
  · exact hs
  · exact h.openScene cfg _ hs
  · rwa [Satisfies, sink_addStatement, files_addStatement]
  · exact hs

theorem feedAll (h : KeptByWrites P) (cfg : Config) (origin : Path) (hs : s.Satisfies P)
    (lines : List (Except IoCause Text)) : (s.feedAll cfg origin lines).2.Satisfies P := by
  induction lines generalizing s with
  | nil => exact hs
  | cons line rest ih =>
      cases line with
      | error cause => exact hs
      | ok text =>
          rw [feedAll_cons_eq_andThen]
          refine Outcome.satisfies_andThen (h.feed cfg text hs) ?_
          intro t ht
          split
          · exact ht
          · exact ih ht

theorem writeHelpers (h : KeptByWrites P) (cfg : Config) (hs : s.Satisfies P) :
    (s.writeHelpers cfg).2.Satisfies P := by
  rw [writeHelpers_eq_andThen]
  refine Outcome.satisfies_andThen ?_ ?_
  · refine h _ _ _ ?_
    exact hs
  · intro t ht
    refine Outcome.satisfies_andThen ?_ fun _ h => h
    refine h _ _ _ ?_
    exact ht

theorem finish (h : KeptByWrites P) (cfg : Config) (hs : s.Satisfies P) :
    (s.finish cfg).2.Satisfies P := by
  by_cases hp : s.progress.phase = .searching
  · rw [finish_of_searching hp]
    exact hs
  · rw [finish_eq_andThen hp]
    refine Outcome.satisfies_andThen (h.closeScene cfg hs) ?_
    intro t ht
    exact h.writeHelpers cfg ht

theorem finishAfter (h : KeptByWrites P) (cfg : Config) {o : Outcome σ Unit}
    (ho : o.2.Satisfies P) : (Session.finishAfter cfg o).2.Satisfies P := by
  rw [finishAfter_eq_andThen]
  exact Outcome.satisfies_andThen ho fun t ht => h.finish cfg ht

theorem run (h : KeptByWrites P) (cfg : Config) (origin : Path) (source : Source)
    (hs : s.Satisfies P) : (s.run cfg origin source).2.Satisfies P :=
  h.finishAfter cfg (h.feedAll cfg origin hs _)

end KeptByWrites

end StoryScript
