/-
# `StoryScript.Proofs.Compilation.Blame` — what a failure is due to

A compilation fails for what it reads, or because its sink refuses a file.  A memory refuses
nothing, so into a memory there are three ways to fail, and each is told by the failure:

    no line starts the script                   missing entry
    two headings make the same name             duplicate scene
    a line is come to that cannot be read       a failure on the source

The third is a matter of where the reading stops (`StopsReading`): the lines before are taken
in without failing and without ending the script.  Any other sink stops at the same line,
unless it has refused a file before (`StopsReading.memory`).
-/
import StoryScript.Proofs.Compilation.Replay
import StoryScript.Proofs.Compilation.Unreadable

namespace StoryScript

open Session

/-! ## Where the reading stops -/

theorem Source.lines_cases (lines : List (Except IoCause Text)) :
    (∃ texts : List Text, lines = texts.map .ok) ∨
      ∃ (texts : List Text) (cause : IoCause) (rest : List (Except IoCause Text)),
        lines = texts.map .ok ++ .error cause :: rest := by
  induction lines with
  | nil => exact Or.inl ⟨[], rfl⟩
  | cons line more ih =>
      cases line with
      | error cause => exact Or.inr ⟨[], cause, more, rfl⟩
      | ok text =>
          rcases ih with ⟨texts, rfl⟩ | ⟨texts, cause, rest, rfl⟩
          · exact Or.inl ⟨text :: texts, rfl⟩
          · exact Or.inr ⟨text :: texts, cause, rest, rfl⟩

section

variable {σ : Type} [Sink σ] {cfg : Config} {origin : Path} {source : Source} {a : σ}
  {cause : IoCause}

/-- A compilation comes to a line that cannot be read. -/
def StopsReading (cfg : Config) (source : Source) (a : σ) (cause : IoCause) : Prop :=
  ∃ texts rest s, source.lines = texts.map .ok ++ .error cause :: rest ∧
    ({ sink := a } : Session σ).feedEach cfg (Script.unmarkFirst texts) = (.ok (), s) ∧
    s.isDone = false

theorem compile_eq_andThen {texts : List Text} {rest : List (Except IoCause Text)}
    (hlines : source.lines = texts.map .ok ++ .error cause :: rest) (a : σ) :
    compile cfg origin source a =
      ((({ sink := a } : Session σ).feedEach cfg (Script.unmarkFirst texts)).andThen fun s =>
        if s.isDone then (.ok (), s) else (.error (.io ⟨origin, cause⟩), s)).andThen
          (·.finish cfg) := by
  rw [compile, run, hlines, Script.unmarked_map_ok_append_error, feedAll_unreadable rfl,
    finishAfter_eq_andThen]

theorem compile_eq_of_feedEach {texts : List Text} {rest : List (Except IoCause Text)}
    {s : Session σ} (hlines : source.lines = texts.map .ok ++ .error cause :: rest)
    (hfed : ({ sink := a } : Session σ).feedEach cfg (Script.unmarkFirst texts) = (.ok (), s))
    (hgoes : s.isDone = false) :
    compile cfg origin source a = (.error (.io ⟨origin, cause⟩), s) := by
  rw [compile_eq_andThen hlines, hfed]
  simp only [Outcome.andThen, hgoes, Bool.false_eq_true, if_false]

theorem feedEach_replaying (cfg : Config) (a : σ) (texts : List Text) :
    (Lockstep.replaying a).Together (({ sink := a } : Session σ).feedEach cfg texts)
      (({ sink := {} } : Session Memory).feedEach cfg texts) := by
  rw [← feedAll_map_ok unnamedOrigin, ← feedAll_map_ok unnamedOrigin]
  exact Lockstep.feedAll rfl unnamedOrigin _

/-- A compilation that comes to a line that cannot be read fails for it, and the compilation into
memory fails alike. -/
theorem StopsReading.memory (h : StopsReading cfg source a cause) (origin : Path) :
    ∃ s m, compile cfg origin source a = (.error (.io ⟨origin, cause⟩), s) ∧
      compile cfg origin source ({} : Memory) = (.error (.io ⟨origin, cause⟩), s.withSink m) := by
  obtain ⟨texts, rest, s, hlines, hfed, hgoes⟩ := h
  have htogether := feedEach_replaying cfg a (Script.unmarkFirst texts)
  rw [hfed] at htogether
  generalize hmemory :
    ({ sink := {} } : Session Memory).feedEach cfg (Script.unmarkFirst texts) = fed at htogether
  cases htogether with
  | @same _ _ m _ =>
      refine ⟨s, m, compile_eq_of_feedEach hlines hfed hgoes, ?_⟩
      exact compile_eq_of_feedEach (s := s.withSink m) hlines hmemory hgoes

/-- If a memory comes to a line that cannot be read, so does any sink that takes the files that
the memory has by then. -/
theorem StopsReading.of_memory (h : StopsReading cfg source ({} : Memory) cause) {b : σ}
    (hwrite : Sink.writeAll a (compile cfg origin source ({} : Memory)).2.sink.files =
      (.ok (), b)) :
    StopsReading cfg source a cause := by
  obtain ⟨texts, rest, t, hlines, hfed, hgoes⟩ := h
  rw [compile_eq_of_feedEach hlines hfed hgoes] at hwrite
  have htogether := feedEach_replaying cfg a (Script.unmarkFirst texts)
  rw [hfed] at htogether
  generalize hsink : ({ sink := a } : Session σ).feedEach cfg (Script.unmarkFirst texts) = fed
    at htogether
  cases htogether with
  | @same _ s _ _ => exact ⟨texts, rest, s, hlines, hsink, hgoes⟩
  | @parted failure s _ hrefused =>
      have hrefused : Sink.writeAll a t.sink.files = (.error failure, s.sink) := hrefused
      rw [hwrite] at hrefused
      cases hrefused

end

/-! ## Failures of a memory -/

section

variable {cfg : Config}

theorem feedEach_memory_cases (cfg : Config) (m : Memory) (texts : List Text) :
    (∃ s, ({ sink := m } : Session Memory).feedEach cfg texts = (.ok (), s)) ∨
      ∃ name s, ({ sink := m } : Session Memory).feedEach cfg texts =
        (.error (.duplicateScene name), s) := by
  rw [← feedAll_map_ok unnamedOrigin]
  cases hbody : Script.body? cfg (texts.map Line.ofText) with
  | none =>
      exact Or.inl ⟨_, feedAll_of_no_entry unnamedOrigin (Script.body?_eq_none_iff.mp hbody)⟩
  | some body =>
      by_cases hnames : (Script.sceneNames cfg body).Nodup
      · obtain ⟨s, hfeed, -⟩ := exists_hasTaken_of_nodup (m := m) unnamedOrigin hbody hnames
        exact Or.inl ⟨s, hfeed⟩
      · obtain ⟨j, name, hrepeat⟩ := Script.exists_firstRepeat_of_not_nodup hnames
        obtain ⟨s, hfeed, -⟩ := exists_feedAll_of_firstRepeat (m := m) unnamedOrigin hbody hrepeat
        exact Or.inr ⟨name, s, hfeed⟩

theorem eq_missingEntryPoint_of_finish {s t : Session Memory} {f : Failure}
    (h : s.finish cfg = (.error f, t)) : f = .missingEntryPoint cfg.entryPoint := by
  by_cases hp : s.progress.phase = .searching
  · rw [finish_of_searching hp] at h
    cases h
    rfl
  · obtain ⟨t', hhelpers, -⟩ := exists_writeHelpers_eq cfg (s.closed cfg)
    rw [finish_eq_andThen hp, closeScene_eq] at h
    rw [Outcome.andThen, hhelpers] at h
    cases h

/-- **A compilation into memory fails in three ways only.** -/
theorem compile_memory_fails {origin : Path} {source : Source} {f : Failure} {t : Session Memory}
    (h : compile cfg origin source ({} : Memory) = (.error f, t)) :
    f = .missingEntryPoint cfg.entryPoint ∨ (∃ name, f = .duplicateScene name) ∨
      ∃ cause, StopsReading cfg source ({} : Memory) cause ∧ f = .io ⟨origin, cause⟩ := by
  rcases Source.lines_cases source.lines with ⟨texts, hlines⟩ | ⟨texts, cause, rest, hlines⟩
  · rw [compile, run, hlines, Script.unmarked_map_ok, feedAll_map_ok, finishAfter_eq_andThen] at h
    rcases feedEach_memory_cases cfg {} (Script.unmarkFirst texts) with
      ⟨s, hfed⟩ | ⟨name, s, hfed⟩
    · rw [hfed] at h
      exact Or.inl (eq_missingEntryPoint_of_finish h)
    · rw [hfed] at h
      cases h
      exact Or.inr (Or.inl ⟨name, rfl⟩)
  · rw [compile_eq_andThen hlines] at h
    rcases feedEach_memory_cases cfg {} (Script.unmarkFirst texts) with
      ⟨s, hfed⟩ | ⟨name, s, hfed⟩
    · rw [hfed] at h
      cases hgoes : s.isDone with
      | true =>
          simp only [Outcome.andThen, hgoes, if_true] at h
          exact Or.inl (eq_missingEntryPoint_of_finish h)
      | false =>
          simp only [Outcome.andThen, hgoes, Bool.false_eq_true, if_false] at h
          cases h
          exact Or.inr (Or.inr ⟨cause, ⟨texts, rest, t, hlines, hfed, hgoes⟩, rfl⟩)
    · rw [hfed] at h
      cases h
      exact Or.inr (Or.inl ⟨name, rfl⟩)

end

end StoryScript
