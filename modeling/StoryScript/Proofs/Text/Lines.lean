/-
# `StoryScript.Proofs.Text.Lines` — the lines of a text

A source is cut into lines as bytes, and each line is decoded on its own.  For a
source that holds a text the lines can be cut from the text instead:

    text    --encode-->  bytes
     |                     |
    lines               cutFrom, dropReturn, readLine
     |                     |
    lines   ==========   lines

The two ways agree (`Source.lines_ofText`) because the newline and the carriage
return are single bytes in UTF-8, and a byte below 128 stands for nothing but its
own character.  A line of a text holds no newline (`Text.not_mem_of_mem_lines`),
which is what keeps a line of a script on one line of the code made from it.

Lines that were written out are read again, and whatever bytes follow them are read as
they would be on their own (`Source.lines_encode_unlines_append`).
-/
import StoryScript.Source

namespace StoryScript

namespace Text

/-! ## Cutting at a character -/

theorem splitAt_ne_nil (sep : Char) (t : Text) : splitAt sep t ≠ [] := by
  cases t with
  | nil => exact List.cons_ne_nil _ _
  | cons c rest =>
      simp only [splitAt]
      split
      · exact List.cons_ne_nil _ _
      · split <;> exact List.cons_ne_nil _ _

theorem splitAt_of_not_mem {sep : Char} {t : Text} (h : sep ∉ t) : splitAt sep t = [t] := by
  induction t with
  | nil => rfl
  | cons c rest ih =>
      have hc : c ≠ sep := fun e => h (e ▸ List.mem_cons_self)
      have hrest : sep ∉ rest := fun m => h (List.mem_cons_of_mem _ m)
      simp only [splitAt, if_neg hc, ih hrest]

theorem splitAt_append_sep (sep : Char) (front back : Text) :
    splitAt sep (front ++ sep :: back) = splitAt sep front ++ splitAt sep back := by
  induction front with
  | nil => simp only [List.nil_append, splitAt, if_pos, List.cons_append]
  | cons c rest ih =>
      obtain ⟨part, more, hparts⟩ := List.exists_cons_of_ne_nil (splitAt_ne_nil sep rest)
      rw [hparts] at ih
      simp only [List.cons_append, splitAt, ih, hparts]
      split
      · rfl
      · rfl

theorem splitAt_append_cons {sep : Char} {part : Text} (h : sep ∉ part) (rest : Text) :
    splitAt sep (part ++ sep :: rest) = part :: splitAt sep rest := by
  rw [splitAt_append_sep, splitAt_of_not_mem h]
  rfl

theorem intercalate_splitAt (sep : Char) (t : Text) :
    List.intercalate [sep] (splitAt sep t) = t := by
  induction t with
  | nil => rfl
  | cons c rest ih =>
      obtain ⟨part, more, hparts⟩ := List.exists_cons_of_ne_nil (splitAt_ne_nil sep rest)
      rw [hparts] at ih
      by_cases hc : c = sep
      · rw [splitAt, if_pos hc, hparts, List.intercalate_cons_cons, ih, hc]
        rfl
      · simp only [splitAt, if_neg hc, hparts]
        cases more with
        | nil =>
            rw [List.intercalate_singleton] at ih ⊢
            exact congrArg (c :: ·) ih
        | cons next more =>
            rw [List.intercalate_cons_cons] at ih ⊢
            exact congrArg (c :: ·) ih

theorem splitAt_injective (sep : Char) : Function.Injective (splitAt sep) := by
  intro t u h
  rw [← intercalate_splitAt sep t, h, intercalate_splitAt]

/-! ## Lines -/

/-- A line without the carriage return of its line end. -/
def dropReturn (line : Text) : Text :=
  if line.getLast? = some '\r' then line.dropLast else line

/-- The lines of a text.  Each ends with a newline, and with the carriage return
before it if there is one; only the last may do without, unless it is empty. -/
def lines (t : Text) : List Text :=
  let parts := splitAt '\n' t
  parts.dropLast.map dropReturn ++ (parts.getLast?.filter (· ≠ [])).toList

theorem dropReturn_subset (line : Text) : dropReturn line ⊆ line := by
  unfold dropReturn
  split
  · exact List.dropLast_subset line
  · exact List.Subset.refl line

theorem not_mem_of_mem_lines {t line : Text} (h : line ∈ lines t) : '\n' ∉ line := by
  simp only [lines, List.mem_append, List.mem_map, Option.mem_toList, Option.filter_eq_some_iff]
    at h
  rcases h with ⟨part, hpart, rfl⟩ | ⟨hlast, -⟩
  · exact fun hmem =>
      not_mem_of_mem_splitAt (List.dropLast_subset _ hpart) (dropReturn_subset part hmem)
  · exact not_mem_of_mem_splitAt (List.mem_of_getLast? hlast)

/-- Lines written out, each with the newline that ends it. -/
def unlines (ls : List Text) : Text := ls.flatMap (· ++ ['\n'])

theorem unlines_nil : unlines [] = [] := rfl

theorem unlines_cons (line : Text) (ls : List Text) :
    unlines (line :: ls) = line ++ '\n' :: unlines ls := by
  rw [unlines, List.flatMap_cons, List.append_assoc]
  rfl

theorem unlines_pair (line : Text) : unlines [[], line] = '\n' :: (line ++ ['\n']) := by
  rw [unlines_cons, unlines_cons]
  rfl

theorem unlines_append (front back : List Text) :
    unlines (front ++ back) = unlines front ++ unlines back :=
  List.flatMap_append

theorem splitAt_unlines_append {ls : List Text} (h : ∀ line ∈ ls, '\n' ∉ line) (rest : Text) :
    splitAt '\n' (unlines ls ++ rest) = ls ++ splitAt '\n' rest := by
  induction ls with
  | nil => rfl
  | cons line ls ih =>
      obtain ⟨hline, hls⟩ := List.forall_mem_cons.mp h
      rw [unlines_cons, List.append_assoc, List.cons_append, splitAt_append_cons hline, ih hls]
      rfl

/-! ## Bytes below 128 -/

/-- A byte below 128 stands for its own character only. -/
theorem mem_utf8EncodeChar_iff {c : Char} {n : Nat} (hn : n < 128) :
    UInt8.ofNat n ∈ String.utf8EncodeChar c ↔ c.toNat = n := by
  have hlt : c.val.toNat < 0x110000 := by
    have := c.valid
    simp only [UInt32.isValidChar, Nat.isValidChar] at this
    omega
  simp only [String.utf8EncodeChar, Char.toNat]
  split
  · simp only [List.mem_singleton, ← UInt8.toNat_inj, UInt8.toNat_ofNat']
    omega
  · split
    · simp only [List.mem_cons, List.not_mem_nil, or_false, ← UInt8.toNat_inj,
        UInt8.toNat_ofNat']
      omega
    · split
      · simp only [List.mem_cons, List.not_mem_nil, or_false, ← UInt8.toNat_inj,
          UInt8.toNat_ofNat']
        omega
      · simp only [List.mem_cons, List.not_mem_nil, or_false, ← UInt8.toNat_inj,
          UInt8.toNat_ofNat']
        omega

theorem encode_append (a b : Text) : (a ++ b).encode = a.encode ++ b.encode :=
  List.flatMap_append

theorem mem_encode_iff {t : Text} {n : Nat} (hn : n < 128) :
    UInt8.ofNat n ∈ t.encode ↔ ∃ c ∈ t, c.toNat = n := by
  simp only [encode, List.mem_flatMap, mem_utf8EncodeChar_iff hn]

theorem newline_mem_encode_iff {t : Text} : (0x0A : UInt8) ∈ t.encode ↔ '\n' ∈ t := by
  refine (mem_encode_iff (by decide : 0x0A < 128)).trans ⟨?_, fun h => ⟨_, h, rfl⟩⟩
  rintro ⟨c, hc, hn⟩
  have : c = '\n' := Char.toNat_inj.mp hn
  exact this ▸ hc

end Text

namespace Source

/-! ## Both ways of cutting -/

theorem cutFrom_append_of_not_mem {a : Bytes} (h : 0x0A ∉ a) (line b : Bytes) :
    cutFrom line (a ++ b) = cutFrom (a.reverse ++ line) b := by
  induction a generalizing line with
  | nil => rfl
  | cons x xs ih =>
      have hx : x ≠ 0x0A := fun e => h (e ▸ List.mem_cons_self)
      have hxs : 0x0A ∉ xs := fun m => h (List.mem_cons_of_mem _ m)
      simp only [List.cons_append, cutFrom, if_neg hx]
      rw [ih hxs, List.reverse_cons, List.append_assoc, List.singleton_append]

/-- Cutting the bytes of a text is cutting the text at its newlines; `start` is the
part of the first line that has been passed. -/
theorem cutFrom_encode (start t : Text) (h : '\n' ∉ start) :
    cutFrom start.encode.reverse t.encode =
      (((Text.splitAt '\n' (start ++ t)).dropLast.map Text.encode),
        (((Text.splitAt '\n' (start ++ t)).getLast?.getD []).encode)) := by
  induction t generalizing start with
  | nil =>
      rw [List.append_nil, Text.splitAt_of_not_mem h]
      simp [Text.encode, cutFrom]
  | cons c rest ih =>
      by_cases hc : c = '\n'
      · subst hc
        have hcut := ih [] List.not_mem_nil
        have hne := Text.splitAt_ne_nil '\n' rest
        simp only [List.nil_append] at hcut
        rw [Text.splitAt_append_cons h, List.dropLast_cons_of_ne_nil hne,
          List.getLast?_cons_of_ne_nil hne, List.map_cons]
        show cutFrom _ (0x0A :: Text.encode rest) = _
        simp only [cutFrom, if_true, List.reverse_reverse]
        rw [show ([] : Bytes) = (Text.encode []).reverse from rfl, hcut]
      · have hstart : '\n' ∉ start ++ [c] := by
          simp only [List.mem_append, List.mem_singleton, not_or]
          exact ⟨h, fun e => hc e.symm⟩
        have hbytes : (0x0A : UInt8) ∉ Text.encode [c] := by
          rw [Text.newline_mem_encode_iff, List.mem_singleton]
          exact fun e => hc e.symm
        have hcons : Text.encode (c :: rest) = Text.encode [c] ++ Text.encode rest :=
          Text.encode_append [c] rest
        rw [hcons, cutFrom_append_of_not_mem hbytes, ← List.reverse_append,
          ← Text.encode_append, ih _ hstart, List.append_assoc, List.singleton_append]

theorem getLast?_encode_eq_return_iff (line : Text) :
    line.encode.getLast? = some 0x0D ↔ line.getLast? = some '\r' := by
  rcases List.eq_nil_or_concat line with rfl | ⟨init, c, rfl⟩
  · simp [Text.encode]
  · have hne : Text.encode [c] ≠ [] := by simp [Text.encode, String.utf8EncodeChar_ne_nil]
    rw [List.concat_eq_append, Text.encode_append, List.getLast?_append,
      Option.or_of_isSome (by simpa using hne), List.getLast?_concat]
    constructor
    · intro h
      have hmem : UInt8.ofNat 0x0D ∈ Text.encode [c] := List.mem_of_getLast? h
      obtain ⟨d, hd, hn⟩ := (Text.mem_encode_iff (by decide)).mp hmem
      rw [List.mem_singleton] at hd
      have hr : d = '\r' := Char.toNat_inj.mp hn
      rw [← hd, hr]
    · intro h
      rw [Option.some.inj h]
      rfl

theorem dropReturn_encode (line : Text) :
    dropReturn line.encode = (Text.dropReturn line).encode := by
  simp only [dropReturn, Text.dropReturn, getLast?_encode_eq_return_iff]
  split
  · rename_i h
    obtain ⟨init, rfl⟩ := List.getLast?_eq_some_iff.mp h
    rw [Text.encode_append, show Text.encode ['\r'] = [0x0D] from rfl, List.dropLast_concat,
      List.dropLast_concat]
  · rfl

theorem readLine_encode (line : Text) : readLine line.encode = .ok line := by
  rw [readLine, Text.decode?_encode]

theorem readLine_comp_dropReturn_comp_encode :
    (readLine ∘ dropReturn) ∘ Text.encode = Except.ok ∘ Text.dropReturn := by
  funext line
  simp only [Function.comp, dropReturn_encode, readLine_encode]

/-- The lines of a source that holds a text are the lines of the text, and all of them
can be read. -/
theorem lines_ofText (t : Text) : (ofText t).lines = (Text.lines t).map .ok := by
  obtain ⟨init, last, hparts⟩ : ∃ init last, Text.splitAt '\n' t = init ++ [last] := by
    rcases List.eq_nil_or_concat (Text.splitAt '\n' t) with h | ⟨init, last, h⟩
    · exact absurd h (Text.splitAt_ne_nil _ _)
    · exact ⟨init, last, h.trans List.concat_eq_append⟩
  have hcut : cutFrom [] t.encode = (init.map Text.encode, Text.encode last) := by
    have h := cutFrom_encode [] t List.not_mem_nil
    rwa [List.nil_append, hparts, List.dropLast_concat, List.getLast?_concat] at h
  have hlast : (if Text.encode last = [] then [] else [readLine (Text.encode last)]) =
      ((some last).filter (· ≠ [])).toList.map Except.ok := by
    cases last with
    | nil => rfl
    | cons c rest =>
        have hne : Text.encode (c :: rest) ≠ [] := by
          simp [Text.encode, String.utf8EncodeChar_ne_nil]
        rw [if_neg hne, readLine_encode]
        rfl
  unfold lines ofText Text.lines
  simp only [hcut, hparts, List.dropLast_concat, List.getLast?_concat, List.map_append,
    List.map_map, readLine_comp_dropReturn_comp_encode]
  rw [hlast]

/-! ## Lines written out -/

theorem cutFrom_encode_unlines_append {ls : List Text} (h : ∀ line ∈ ls, '\n' ∉ line)
    (post : Bytes) :
    cutFrom [] ((Text.unlines ls).encode ++ post) =
      (ls.map Text.encode ++ (cutFrom [] post).1, (cutFrom [] post).2) := by
  induction ls with
  | nil => rfl
  | cons line ls ih =>
      obtain ⟨hline, hls⟩ := List.forall_mem_cons.mp h
      have hbytes : (0x0A : UInt8) ∉ line.encode :=
        fun hmem => hline (Text.newline_mem_encode_iff.mp hmem)
      have hcons : (Text.unlines (line :: ls)).encode ++ post =
          line.encode ++ 0x0A :: ((Text.unlines ls).encode ++ post) := by
        rw [Text.unlines_cons, Text.encode_append, List.append_assoc]
        rfl
      rw [hcons, cutFrom_append_of_not_mem hbytes, cutFrom, if_pos rfl, ih hls,
        List.append_nil, List.reverse_reverse]
      rfl

theorem lines_encode_unlines_append {ls : List Text} (h : ∀ line ∈ ls, '\n' ∉ line)
    (post : Bytes) (failure? : Option IoCause) :
    lines ⟨(Text.unlines ls).encode ++ post, failure?⟩ =
      (ls.map Text.dropReturn).map .ok ++ lines ⟨post, failure?⟩ := by
  unfold lines
  simp only [cutFrom_encode_unlines_append h, List.map_append, List.map_map,
    readLine_comp_dropReturn_comp_encode, List.append_assoc]

theorem lines_ofText_unlines {ls : List Text} (h : ∀ line ∈ ls, '\n' ∉ line) :
    (ofText (Text.unlines ls)).lines = (ls.map Text.dropReturn).map .ok := by
  have happend := lines_encode_unlines_append h [] none
  rw [List.append_nil] at happend
  rw [ofText, happend]
  exact List.append_nil _

/-! ## Marks in front of the first line -/

theorem unmarkedLine_of_head? {line : Text} (h : line.head? ≠ some byteOrderMark) :
    unmarkedLine line = line := by
  cases line with
  | nil => rfl
  | cons c rest =>
      refine List.dropWhile_cons_of_neg ?_
      intro hc
      exact h (congrArg some (beq_iff_eq.mp hc))

theorem unmarkedLine_append {w : Text} (h : byteOrderMark ∉ w) (line : Text) :
    unmarkedLine (line ++ w) = unmarkedLine line ++ w := by
  have hw : unmarkedLine w = w :=
    unmarkedLine_of_head? fun hhead => h (List.mem_of_mem_head? hhead)
  rw [unmarkedLine, List.dropWhile_append]
  split
  · rename_i hline
    rw [unmarkedLine, List.isEmpty_iff.mp hline]
    exact hw
  · rfl

theorem unmarkedLine_dropReturn (line : Text) :
    unmarkedLine (Text.dropReturn line) = Text.dropReturn (unmarkedLine line) := by
  by_cases hlast : line.getLast? = some '\r'
  · obtain ⟨init, rfl⟩ := List.getLast?_eq_some_iff.mp hlast
    rw [unmarkedLine_append (by decide), Text.dropReturn, if_pos List.getLast?_concat,
      List.dropLast_concat, Text.dropReturn, if_pos List.getLast?_concat, List.dropLast_concat]
  · have hrest : (unmarkedLine line).getLast? ≠ some '\r' := by
      intro h
      obtain ⟨marks, hline⟩ := List.dropWhile_suffix (l := line) (· == byteOrderMark)
      refine hlast ?_
      rw [unmarkedLine] at h
      rw [← hline, List.getLast?_append, h]
      rfl
    rw [Text.dropReturn, if_neg hlast, Text.dropReturn, if_neg hrest]

end Source

end StoryScript
