/-
# `StoryScript.Proofs.Template` — the engine keeps to what is asked of one

A body is read as the pieces that it was written from, but for texts that meet: no tag is
between them, so they are one text (`Template.exists_scan_body`).  Neither tag of the loop has
a hyphen on the side of the body, so all of its blanks are kept, and the parts are the text in
front, the loop, and the text behind (`Template.read_loop`).
-/
import StoryScript.Proofs.Text.Blank
import StoryScript.Template

namespace StoryScript.Template

/-- The name of the value in one turn of the loop. -/
def item : Text := "character".toList

/-- The name of the list. -/
def list : Text := "characters".toList

/-! ## Cutting -/

theorem scan_cons_of_ne {c : Char} (h : c ≠ '\x7b') (start rest : Text) :
    scan .text start (c :: rest) = scan .text (c :: start) rest := by
  rw [scan]
  · intro rest' heq
    exact absurd heq h
  · intro rest' heq
    exact absurd heq h

theorem scan_plain {t : Text} (h : isPlain t = true) (start rest : Text) :
    scan .text start (t ++ rest) = scan .text (t.reverse ++ start) rest := by
  fun_induction isPlain t generalizing start with
  | case1 c t ih =>
      simp only [Bool.and_eq_true, bne_iff_ne] at h
      obtain ⟨⟨⟨hbrace, hpercent⟩, -⟩, ht⟩ := h
      rw [List.reverse_cons, List.append_assoc, List.cons_append, List.cons_append, scan]
      · exact ih ht _
      · intro rest' _ heq
        exact hbrace (List.cons.inj heq).1
      · intro rest' _ heq
        exact hpercent (List.cons.inj heq).1
  | case2 => cases h
  | case3 c t hlong hshort ih =>
      have hc : c ≠ '\x7b' := by
        intro hc
        cases t with
        | nil => exact hshort hc rfl
        | cons d t => exact hlong d t hc rfl
      rw [List.reverse_cons, List.append_assoc, List.cons_append, scan_cons_of_ne hc]
      exact ih h _
  | case4 => rfl

theorem scan_value (start rest : Text) :
    scan .text start ((Piece.value item).source ++ rest) =
      (scan .text [] rest).map fun tokens => .text start.reverse :: .value item :: tokens := by
  show ((scan .text [] rest).map _).map _ = _
  rw [Option.map_map]
  rfl

theorem scan_loopTag (start rest : Text) :
    scan .text start (loopTag item list ++ rest) = (scan .text [] rest).map fun tokens =>
      .text start.reverse :: .command true ["for".toList, item, "in".toList, list] false ::
        tokens := by
  show ((scan .text [] rest).map _).map _ = _
  rw [Option.map_map]
  rfl

theorem scan_endTag (start rest : Text) :
    scan .text start (endTag ++ rest) = (scan .text [] rest).map fun tokens =>
      .text start.reverse :: .command false ["endfor".toList] true :: tokens := by
  show ((scan .text [] rest).map _).map _ = _
  rw [Option.map_map]
  rfl

/-- The token of a piece. -/
def Piece.token : Piece → Token
  | .text t => .text t
  | .value name => .value name

/-- A body is cut into pieces that make the same of every value. -/
theorem exists_scan_body {body : List Piece} (h : ∀ p ∈ body, p.isFor item = true)
    (start : Text) :
    ∃ pieces : List Piece, (∀ name, .value name ∈ pieces → name = item) ∧
      (∀ value, pieces.flatMap (Piece.put value) =
        start.reverse ++ body.flatMap (Piece.put value)) ∧
      ∀ rest, scan .text start (body.flatMap Piece.source ++ endTag ++ rest) =
        (scan .text [] rest).map fun tokens =>
          pieces.map Piece.token ++ .command false ["endfor".toList] true :: tokens := by
  induction body generalizing start with
  | nil =>
      refine ⟨[.text start.reverse], ?_, ?_, scan_endTag start⟩
      · intro name hname
        cases List.mem_singleton.mp hname
      · intro value
        rfl
  | cons p body ih =>
      obtain ⟨hp, hbody⟩ := List.forall_mem_cons.mp h
      cases p with
      | text t =>
          obtain ⟨pieces, hnames, hput, hscan⟩ := ih hbody (t.reverse ++ start)
          refine ⟨pieces, hnames, ?_, ?_⟩
          · intro value
            rw [hput, List.reverse_append, List.reverse_reverse, List.flatMap_cons,
              List.append_assoc]
            rfl
          · intro rest
            rw [← hscan, List.flatMap_cons, List.append_assoc, List.append_assoc]
            exact (scan_plain hp start _).trans (by rw [List.append_assoc])
      | value name =>
          obtain rfl : name = item := beq_iff_eq.mp hp
          obtain ⟨pieces, hnames, hput, hscan⟩ := ih hbody []
          refine ⟨.text start.reverse :: .value item :: pieces, ?_, ?_, ?_⟩
          · intro name hname
            rcases List.mem_cons.mp hname with hname | hname
            · cases hname
            rcases List.mem_cons.mp hname with hname | hname
            · cases hname
              rfl
            · exact hnames name hname
          · intro value
            rw [List.flatMap_cons, List.flatMap_cons, List.flatMap_cons, hput]
            rfl
          · intro rest
            rw [List.flatMap_cons, List.append_assoc, List.append_assoc, scan_value,
              ← List.append_assoc, hscan, Option.map_map]
            rfl

/-! ## Reading -/

theorem trimmed_pieces {rest : List Token} (h : cutsBefore rest = false) (pieces : List Piece) :
    trimmed false (pieces.map Piece.token ++ rest) =
      pieces.map Piece.token ++ trimmed false rest := by
  induction pieces with
  | nil => rfl
  | cons p pieces ih =>
      have hnext : cutsBefore (pieces.map Piece.token ++ rest) = false := by
        cases pieces with
        | nil => exact h
        | cons next pieces => cases next <;> rfl
      cases p with
      | text t =>
          show trimmed false (.text t :: (pieces.map Piece.token ++ rest)) = _
          rw [trimmed, hnext, ih]
          rfl
      | value name => exact congrArg (Token.value name :: ·) ih

theorem partsFrom_pieces (item list : Text) (body pieces : List Piece) (rest : List Token) :
    partsFrom (some (item, list, body)) (pieces.map Piece.token ++ rest) =
      partsFrom (some (item, list, pieces.reverse ++ body)) rest := by
  induction pieces generalizing body with
  | nil => rfl
  | cons p pieces ih =>
      rw [List.reverse_cons, List.append_assoc]
      cases p <;> exact ih _

/-- A template with a loop is read as the text in front, the loop, and the text behind. -/
theorem read_loop {before after : Text} {body : List Piece} (hbefore : isPlain before = true)
    (hbody : ∀ p ∈ body, p.isFor item = true) (hafter : isPlain after = true) :
    ∃ pieces : List Piece, (∀ name, .value name ∈ pieces → name = item) ∧
      (∀ value, pieces.flatMap (Piece.put value) = body.flatMap (Piece.put value)) ∧
      read (before ++ loopTag item list ++ body.flatMap Piece.source ++ endTag ++ after) =
        some [.piece (.text (Text.dropEndWhile Text.isBlank before)), .each item list pieces,
          .piece (.text (Text.trimStart after))] := by
  obtain ⟨pieces, hnames, hput, hscan⟩ := exists_scan_body hbody []
  refine ⟨pieces, hnames, hput, ?_⟩
  have hend : scan .text [] after = some [.text after] := by
    have h := scan_plain hafter [] []
    rwa [List.append_nil, List.append_nil, scan, List.reverse_reverse] at h
  rw [read, List.append_assoc, List.append_assoc, List.append_assoc, scan_plain hbefore,
    scan_loopTag, ← List.append_assoc, hscan, hend, List.append_nil, List.reverse_reverse]
  show partsFrom none (.text (Text.dropEndWhile Text.isBlank before) ::
    .command true ["for".toList, item, "in".toList, list] false ::
      trimmed false (pieces.map Piece.token ++ [.command false ["endfor".toList] true,
        .text after])) = _
  rw [trimmed_pieces rfl]
  show (partsFrom (some (item, list, [])) (pieces.map Piece.token ++
    [.command false ["endfor".toList] true, .text (Text.trimStart after)])).map _ = _
  rw [partsFrom_pieces, List.append_nil]
  show some [_, Part.each item list pieces.reverse.reverse, _] = _
  rw [List.reverse_reverse]

/-! ## Filling in -/

theorem fillAll_turn (value : Text) (v : Values) {pieces : List Piece}
    (h : ∀ name, .value name ∈ pieces → name = item) :
    fillAll ((item, .text value) :: v) pieces = some (pieces.flatMap (Piece.put value)) := by
  rw [fillAll]
  induction pieces with
  | nil => rfl
  | cons p pieces ih =>
      have hp : p.fill ((item, .text value) :: v) = some (p.put value) := by
        cases p with
        | text t => rfl
        | value name =>
            obtain rfl := h name List.mem_cons_self
            rw [Piece.fill, List.lookup_cons_self]
            rfl
      obtain ⟨ts, hts, hput⟩ := Option.map_eq_some_iff.mp
        (ih fun name hname => h name (List.mem_cons_of_mem _ hname))
      rw [List.mapM_cons, hp, hts, List.flatMap_cons, ← hput]
      rfl

/-- **The engine keeps to what is asked of one.** -/
def engine : Engine item list where
  render := render
  render_loop {before after body v values} hbefore hbody hafter hvalues := by
    obtain ⟨pieces, hnames, hput, hread⟩ := read_loop hbefore hbody hafter
    have hturns : (values.mapM fun value => fillAll ((item, .text value) :: v) pieces) =
        some (values.map fun value => body.flatMap (Piece.put value)) := by
      simp only [fillAll_turn _ v hnames, hput]
      exact List.mapM_pure
    have hloop : Part.fill v (.each item list pieces) =
        some (values.flatMap fun value => body.flatMap (Piece.put value)) := by
      rw [Part.fill, hvalues]
      show Option.map _ _ = _
      rw [hturns]
      rfl
    rw [render, hread]
    simp only [Option.bind_eq_bind, Option.bind_some, List.mapM_cons, List.mapM_nil, hloop]
    simp only [Part.fill, Piece.fill, Option.bind_some, Option.pure_def, List.flatten_cons,
      List.flatten_nil, List.append_nil, List.append_assoc]

end StoryScript.Template
