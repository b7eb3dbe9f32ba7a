/-
# `StoryScript.Cursor.Steady` — reading a file that does not change

As long as a file keeps its contents, reading it block by block yields the lines
that its bytes are cut into, whatever the size of a block.  So a compilation that
never writes over its own script is the compilation of the bytes that the script
held at first: `Session.runFrom_eq_run`.

What is unread at a place is what has been read ahead and what the file holds
behind it.  Each line takes at least one byte of that, which bounds the number of
turns.
-/
import StoryScript.Compilation

namespace StoryScript

namespace Cursor

/-- What is unread at a place of a file. -/
def unread (file : Bytes) (c : Cursor) : Bytes := c.ahead ++ file.drop c.offset

/-! ## Cuts -/

theorem cutAfter_append_of_some {a line rest : Bytes} (x acc : Bytes)
    (h : cutAfter acc a = some (line, rest)) :
    cutAfter acc (a ++ x) = some (line, rest ++ x) := by
  induction a generalizing acc with
  | nil => simp only [cutAfter, reduceCtorEq] at h
  | cons y ys ih =>
    simp only [cutAfter, List.cons_append] at h ⊢
    split
    · rename_i hy
      rw [if_pos hy, Option.some.injEq, Prod.mk.injEq] at h
      rw [h.1, h.2]
    · rename_i hy
      rw [if_neg hy] at h
      exact ih (y :: acc) h

theorem cutAfter_append_of_none {a : Bytes} (x acc : Bytes) (h : cutAfter acc a = none) :
    cutAfter acc (a ++ x) = cutAfter (a.reverse ++ acc) x := by
  induction a generalizing acc with
  | nil => rfl
  | cons y ys ih =>
    simp only [cutAfter, List.cons_append] at h ⊢
    split
    · rename_i hy
      rw [if_pos hy] at h
      exact absurd h (by simp)
    · rename_i hy
      rw [if_neg hy] at h
      rw [ih (y :: acc) h, List.reverse_cons, List.append_assoc, List.singleton_append]

theorem cutAfter_append_acc (before acc b : Bytes) :
    cutAfter (before ++ acc) b =
      (cutAfter before b).map fun cut => (acc.reverse ++ cut.1, cut.2) := by
  induction b generalizing before with
  | nil => rfl
  | cons x xs ih =>
    simp only [cutAfter]
    split
    · simp only [List.reverse_append, Option.map_some]
    · exact ih (x :: before)

theorem cutFrom_of_some {b line rest : Bytes} (acc : Bytes)
    (h : cutAfter acc b = some (line, rest)) :
    Source.cutFrom acc b = (line :: (Source.cutFrom [] rest).1, (Source.cutFrom [] rest).2) := by
  induction b generalizing acc with
  | nil => simp only [cutAfter, reduceCtorEq] at h
  | cons x xs ih =>
    simp only [cutAfter, Source.cutFrom] at h ⊢
    split
    · rename_i hx
      rw [if_pos hx, Option.some.injEq, Prod.mk.injEq] at h
      rw [h.1, h.2]
    · rename_i hx
      rw [if_neg hx] at h
      exact ih (x :: acc) h

theorem cutFrom_of_none {b : Bytes} (acc : Bytes) (h : cutAfter acc b = none) :
    Source.cutFrom acc b = ([], acc.reverse ++ b) := by
  induction b generalizing acc with
  | nil => simp only [Source.cutFrom, List.append_nil]
  | cons x xs ih =>
    simp only [cutAfter, Source.cutFrom] at h ⊢
    split
    · rename_i hx
      rw [if_pos hx] at h
      exact absurd h (by simp)
    · rename_i hx
      rw [if_neg hx] at h
      rw [ih (x :: acc) h, List.reverse_cons, List.append_assoc, List.singleton_append]

theorem length_rest_lt {b line rest : Bytes} (acc : Bytes)
    (h : cutAfter acc b = some (line, rest)) : rest.length < b.length := by
  induction b generalizing acc with
  | nil => simp only [cutAfter, reduceCtorEq] at h
  | cons x xs ih =>
    simp only [cutAfter] at h
    split at h
    · rw [Option.some.injEq, Prod.mk.injEq] at h
      rw [h.2, List.length_cons]
      exact Nat.lt_succ_self _
    · exact Nat.lt_succ_of_lt (ih (x :: acc) h)

/-! ## Blocks -/

theorem take_of_none {u : Bytes} (acc : Bytes) {n : Nat}
    (hn : (u.takeWhile (· != 0x0A)).length + 1 ≤ n) (h : cutAfter acc (u.take n) = none) :
    u.take n = u := by
  induction u generalizing acc n with
  | nil => exact List.take_nil
  | cons x xs ih =>
    cases n with
    | zero => omega
    | succ n =>
      rw [List.take_succ_cons] at h ⊢
      simp only [cutAfter] at h
      split at h
      · exact absurd h (by simp)
      · rename_i hx
        have hx' : (x != 0x0A) = true := by simpa using hx
        rw [List.takeWhile_cons, if_pos hx', List.length_cons] at hn
        rw [ih (x :: acc) (by omega) h]

theorem exists_blocksToNewline_eq_take (u : Bytes) :
    ∃ n, blocksToNewline u = u.take n ∧ (u.takeWhile (· != 0x0A)).length + 1 ≤ n := by
  refine ⟨_, rfl, ?_⟩
  simp only [blockSize]
  omega

theorem drop_length_take (file : Bytes) (offset n : Nat) :
    file.drop (offset + ((file.drop offset).take n).length) = (file.drop offset).drop n := by
  rw [List.length_take, List.drop_drop]
  rcases Nat.le_total n (file.drop offset).length with h | h
  · rw [Nat.min_eq_left h]
  · rw [Nat.min_eq_right h, List.length_drop]
    rw [List.length_drop] at h
    rw [List.drop_eq_nil_of_le (by omega), List.drop_eq_nil_of_le (by omega)]

/-! ## Lines -/

/-- Where no line ends in what has been read ahead, a line goes on in the blocks
that are read. -/
theorem nextLine_eq_lineThrough {file : Bytes} {c : Cursor} (ha : cutAfter [] c.ahead = none) :
    c.nextLine file = lineThrough c.ahead (blocksToNewline (file.drop c.offset))
      (c.offset + (blocksToNewline (file.drop c.offset)).length) := by
  unfold nextLine cutLine?
  rw [ha]

theorem lineThrough_of_some {ahead fresh line rest : Bytes} {offset : Nat}
    (hf : cutAfter [] fresh = some (line, rest)) :
    lineThrough ahead fresh offset =
      some (Source.dropReturn (ahead ++ line), ⟨rest, offset⟩) := by
  simp only [lineThrough, cutLine?, hf]

theorem lineThrough_of_none {ahead fresh : Bytes} {offset : Nat}
    (hf : cutAfter [] fresh = none) :
    lineThrough ahead fresh offset =
      if ahead ++ fresh = [] then none else some (ahead ++ fresh, ⟨[], offset⟩) := by
  simp only [lineThrough, cutLine?, hf]

/-- A line with a newline behind it is the first of what is unread, and what is
unread after it is the rest. -/
theorem nextLine_of_some {file : Bytes} {c : Cursor} {line rest : Bytes}
    (h : cutLine? (c.unread file) = some (line, rest)) :
    ∃ next, c.nextLine file = some (Source.dropReturn line, next) ∧ next.unread file = rest ∧
      (c.offset ≠ 0 ∨ c.ahead = [] → next.offset ≠ 0) := by
  simp only [unread, cutLine?] at h
  cases ha : cutAfter [] c.ahead with
  | some cut =>
    obtain ⟨line', rest'⟩ := cut
    rw [cutAfter_append_of_some _ _ ha, Option.some.injEq, Prod.mk.injEq] at h
    obtain ⟨rfl, rfl⟩ := h
    refine ⟨{ c with ahead := rest' }, by simp only [nextLine, cutLine?, ha], rfl, ?_⟩
    rintro (h | h)
    · exact h
    · rw [h] at ha
      exact absurd ha (by simp [cutAfter])
  | none =>
    rw [cutAfter_append_of_none _ _ ha, ← List.nil_append (c.ahead.reverse ++ []),
      cutAfter_append_acc, List.append_nil, List.reverse_reverse] at h
    obtain ⟨n, hb, hn⟩ := exists_blocksToNewline_eq_take (file.drop c.offset)
    cases hf : cutAfter [] (blocksToNewline (file.drop c.offset)) with
    | none =>
      rw [hb] at hf
      rw [← take_of_none [] hn hf, hf] at h
      exact absurd h (by simp)
    | some cut =>
      obtain ⟨line', rest'⟩ := cut
      have hu := cutAfter_append_of_some ((file.drop c.offset).drop n) [] hf
      rw [hb, List.take_append_drop] at hu
      rw [hu, Option.map_some, Option.some.injEq, Prod.mk.injEq] at h
      obtain ⟨rfl, rfl⟩ := h
      have hpos := length_rest_lt [] hf
      refine ⟨⟨rest', c.offset + (blocksToNewline (file.drop c.offset)).length⟩,
        (nextLine_eq_lineThrough ha).trans (lineThrough_of_some hf), ?_, fun _ => ?_⟩
      · simp only [unread, hb, drop_length_take]
      · exact Nat.ne_of_gt (Nat.lt_of_lt_of_le (Nat.zero_lt_of_lt hpos) (Nat.le_add_left _ _))

theorem nextLine_of_none {file : Bytes} {c : Cursor} (h : cutLine? (c.unread file) = none) :
    (c.unread file = [] ∧ c.nextLine file = none) ∨
      (c.unread file ≠ [] ∧
        ∃ next, c.nextLine file = some (c.unread file, next) ∧ next.unread file = [] ∧
          (c.offset ≠ 0 ∨ c.ahead = [] → next.offset ≠ 0)) := by
  simp only [unread, cutLine?] at h
  cases ha : cutAfter [] c.ahead with
  | some cut =>
    rw [cutAfter_append_of_some _ _ ha] at h
    exact absurd h (by simp)
  | none =>
    rw [cutAfter_append_of_none _ _ ha, ← List.nil_append (c.ahead.reverse ++ []),
      cutAfter_append_acc, Option.map_eq_none_iff] at h
    obtain ⟨n, hb, hn⟩ := exists_blocksToNewline_eq_take (file.drop c.offset)
    have hf : cutAfter [] (blocksToNewline (file.drop c.offset)) = none := by
      cases hf : cutAfter [] (blocksToNewline (file.drop c.offset)) with
      | none => rfl
      | some cut =>
        have hu := cutAfter_append_of_some ((file.drop c.offset).drop n) [] hf
        rw [hb, List.take_append_drop, h] at hu
        exact absurd hu (by simp)
    have hall : blocksToNewline (file.drop c.offset) = file.drop c.offset := by
      rw [hb] at hf ⊢
      exact take_of_none [] hn hf
    by_cases hu : c.ahead ++ file.drop c.offset = []
    · refine Or.inl ⟨hu, ?_⟩
      rw [nextLine_eq_lineThrough ha, lineThrough_of_none hf, hall, if_pos hu]
    · refine Or.inr ⟨hu, ⟨[], c.offset + (file.drop c.offset).length⟩, ?_, ?_, ?_⟩
      · rw [nextLine_eq_lineThrough ha, lineThrough_of_none hf, hall, if_neg hu]
        rfl
      · simp only [unread, List.nil_append, List.length_drop]
        exact List.drop_eq_nil_of_le (by omega)
      · intro h0
        rcases h0 with h0 | h0
        · dsimp only
          omega
        · rw [h0, List.nil_append] at hu
          have := List.length_pos_iff.mpr hu
          dsimp only
          omega

end Cursor

namespace Source

/-- What reading some bytes line by line yields. -/
def linesOf (b : Bytes) : List (Except IoCause Text) := (⟨b, none⟩ : Source).lines

theorem linesOf_of_some {b line rest : Bytes} (h : Cursor.cutLine? b = some (line, rest)) :
    linesOf b = readLine (dropReturn line) :: linesOf rest := by
  simp only [linesOf, lines, Cursor.cutFrom_of_some [] h, List.map_cons, Function.comp,
    List.cons_append]

theorem linesOf_of_none {b : Bytes} (h : Cursor.cutLine? b = none) :
    linesOf b = if b = [] then [] else [readLine b] := by
  simp only [linesOf, lines, Cursor.cutFrom_of_none [] h, List.reverse_nil, List.nil_append,
    List.map_nil]

end Source

namespace Session

open Cursor

variable {σ : Type} [Sink σ]

/-- Taking in the lines of a file from a place on is taking in the lines of what is
unread, as long as the file keeps its contents; `P` is what lines leave true, and
what has the file hold `file`. -/
theorem feedFrom_eq_feedAll {cfg : Config} {origin : Path} {contents : σ → Bytes} {file : Bytes}
    {P : σ → Prop} (hfile : ∀ x, P x → contents x = file)
    (hkeep : ∀ (s : Session σ) line, P s.sink → P (s.feed cfg line).2.sink) (turns : Nat)
    (c : Cursor) (s : Session σ) (hs : P s.sink) (hc : c.offset ≠ 0)
    (ht : (c.unread file).length < turns) :
    feedFrom cfg origin contents turns c s =
      s.feedAll cfg origin (Source.linesOf (c.unread file)) := by
  induction turns generalizing c s with
  | zero => omega
  | succ turns ih =>
    have hstart : c.atStart = false := by simpa [atStart] using hc
    simp only [feedFrom, hfile _ hs]
    cases hcut : cutLine? (c.unread file) with
    | some cut =>
      obtain ⟨line, rest⟩ := cut
      obtain ⟨next, hnext, hrest, hoff⟩ := nextLine_of_some hcut
      have hlt := length_rest_lt [] hcut
      rw [Source.linesOf_of_some hcut]
      simp only [hnext]
      cases Source.readLine (Source.dropReturn line) with
      | error cause => rfl
      | ok text =>
        simp only [feedAll, hstart, Bool.false_eq_true, if_false]
        have hP := hkeep s text hs
        generalize s.feed cfg text = outcome at hP ⊢
        obtain ⟨result, s'⟩ := outcome
        cases result with
        | error f => rfl
        | ok _ =>
          dsimp only
          rw [ih next s' hP (hoff (Or.inl hc)) (by rw [hrest]; omega), hrest]
    | none =>
      rw [Source.linesOf_of_none hcut]
      rcases nextLine_of_none hcut with ⟨hu, hnext⟩ | ⟨hu, next, hnext, hrest, hoff⟩
      · simp only [hnext, hu, if_true, feedAll]
      · have hpos := List.length_pos_iff.mpr hu
        simp only [hnext, if_neg hu]
        cases Source.readLine (c.unread file) with
        | error cause => rfl
        | ok text =>
          simp only [feedAll, hstart, Bool.false_eq_true, if_false]
          have hP := hkeep s text hs
          generalize s.feed cfg text = outcome at hP ⊢
          obtain ⟨result, s'⟩ := outcome
          cases result with
          | error f => rfl
          | ok _ =>
            dsimp only
            rw [ih next s' hP (hoff (Or.inl hc)) (by rw [hrest, List.length_nil]; omega), hrest]
            rfl

/-- Taking in the lines of a file from its beginning is taking in all its lines,
without the byte order marks in front of the first. -/
theorem feedFrom_start_eq_feedAll {cfg : Config} {origin : Path} {contents : σ → Bytes}
    {file : Bytes} {P : σ → Prop} (hfile : ∀ x, P x → contents x = file)
    (hkeep : ∀ (s : Session σ) line, P s.sink → P (s.feed cfg line).2.sink) (turns : Nat)
    (c : Cursor) (s : Session σ) (hs : P s.sink) (hc : c.offset = 0) (ha : c.ahead = [])
    (ht : file.length < turns) :
    feedFrom cfg origin contents (turns + 1) c s =
      s.feedAll cfg origin (Source.unmarked (Source.linesOf file)) := by
  have hu : c.unread file = file := by rw [unread, ha, hc, List.nil_append, List.drop_zero]
  have hstart : c.atStart = true := by rw [atStart, hc, beq_self_eq_true]
  simp only [feedFrom, hfile _ hs, hstart, if_true]
  cases hcut : cutLine? (c.unread file) with
  | some cut =>
    obtain ⟨line, rest⟩ := cut
    obtain ⟨next, hnext, hrest, hoff⟩ := nextLine_of_some hcut
    rw [hu] at hcut
    have hlt := length_rest_lt [] hcut
    rw [Source.linesOf_of_some hcut]
    simp only [hnext]
    cases Source.readLine (Source.dropReturn line) with
    | error cause => rfl
    | ok text =>
      simp only [Source.unmarked, feedAll]
      have hP := hkeep s (Source.unmarkedLine text) hs
      generalize s.feed cfg (Source.unmarkedLine text) = outcome at hP ⊢
      obtain ⟨result, s'⟩ := outcome
      cases result with
      | error f => rfl
      | ok _ =>
        dsimp only
        rw [feedFrom_eq_feedAll hfile hkeep turns next s' hP (hoff (Or.inr ha))
          (by rw [hrest]; omega), hrest]
  | none =>
    have hcut' := hcut
    rw [hu] at hcut'
    rw [Source.linesOf_of_none hcut']
    rcases nextLine_of_none hcut with ⟨hnil, hnext⟩ | ⟨hne, next, hnext, hrest, hoff⟩
    · rw [hu] at hnil
      rw [if_pos hnil]
      simp only [hnext, Source.unmarked, feedAll]
    · rw [hu] at hne hnext
      have hpos := List.length_pos_iff.mpr hne
      rw [if_neg hne]
      simp only [hnext]
      cases Source.readLine file with
      | error cause => rfl
      | ok text =>
        simp only [Source.unmarked, feedAll]
        have hP := hkeep s (Source.unmarkedLine text) hs
        generalize s.feed cfg (Source.unmarkedLine text) = outcome at hP ⊢
        obtain ⟨result, s'⟩ := outcome
        cases result with
        | error f => rfl
        | ok _ =>
          dsimp only
          rw [feedFrom_eq_feedAll hfile hkeep turns next s' hP (hoff (Or.inr ha))
            (by rw [hrest, List.length_nil]; omega), hrest]
          rfl

/-- Compiling from a file that keeps its contents is compiling what it held at
first. -/
theorem runFrom_eq_run {cfg : Config} {origin : Path} {contents : σ → Bytes} {file : Bytes}
    {P : σ → Prop} (hfile : ∀ x, P x → contents x = file)
    (hkeep : ∀ (s : Session σ) line, P s.sink → P (s.feed cfg line).2.sink) (s : Session σ)
    (hs : P s.sink) : s.runFrom cfg origin contents = s.run cfg origin ⟨file, none⟩ := by
  have hspare : 2 ≤ spareTurns := by unfold spareTurns; omega
  unfold runFrom run
  generalize spareTurns = spare at hspare ⊢
  obtain ⟨k, rfl⟩ := Nat.exists_eq_add_of_le hspare
  rw [hfile _ hs, show file.length + (2 + k) = file.length + k + 1 + 1 by omega,
    feedFrom_start_eq_feedAll hfile hkeep (file.length + k + 1) {} s hs rfl rfl (by omega),
    Source.linesOf]

end Session

end StoryScript
