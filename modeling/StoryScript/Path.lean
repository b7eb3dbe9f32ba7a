/-
# `StoryScript.Path` — paths as text, and what they are made of

A path is kept as the text it was given as, since that text is what a report
and an error message show.  What a path denotes is another matter: `components`
reads it with the slashes for separators, where repeated and trailing slashes
do not count, and neither does a dot except as the very first component of a
relative path.  Two paths with the same components are the same place for every
starting directory.

`parent?` is cut out of the text as well, because an error names the directory
that could not be made the way its path was spelled.
-/
import StoryScript.Text.Split

namespace StoryScript

/-- A path, as it is spelled. -/
structure Path where
  text : Text
deriving DecidableEq, Repr, Inhabited

/-- One step of a path. -/
inductive Component where
  | root
  | here
  | up
  | entry (name : Text)
deriving DecidableEq, Repr

namespace Path

/-- The texts between the slashes. -/
def segments (t : Text) : List Text := Text.splitAt '/' t

/-- What a segment contributes, unless it is the first. -/
def step? (segment : Text) : Option Component :=
  if segment = [] ∨ segment = ['.'] then none
  else if segment = ['.', '.'] then some .up
  else some (.entry segment)

/-- Where a path starts: at the root, or at a dot that is spelled out. -/
def start (t : Text) : List Component :=
  if t.head? = some '/' then [.root]
  else if (segments t).head? = some ['.'] then [.here]
  else []

/-- The path as a list of steps. -/
def components (p : Path) : List Component :=
  start p.text ++ (segments p.text).filterMap step?

/-- A text read backwards, without the slashes and idle dots it starts with
in that direction. -/
def dropIdle : Text → Text
  | '/' :: rest => dropIdle rest
  | '.' :: '/' :: rest => dropIdle rest
  | t => t

/-- The directory that holds the last step of the path.  The root has none,
and nor has the empty path; a single step is held by the empty path, which
stands for the working directory. -/
def parent? (p : Path) : Option Path :=
  match dropIdle p.text.reverse with
  | [] => none
  | last =>
    match dropIdle (last.dropWhile (· != '/')) with
    | [] => some ⟨if p.text.head? = some '/' then ['/'] else []⟩
    | t => some ⟨t.reverse⟩

/-- The path `q`, read from the directory `p`: an absolute `q` stands for
itself, and nothing is put in front of it either if `p` is empty. -/
def join (p q : Path) : Path :=
  if q.text.head? = some '/' ∨ p.text = [] then q
  else if p.text.getLast? = some '/' then ⟨p.text ++ q.text⟩
  else ⟨p.text ++ '/' :: q.text⟩

/-! ## A parent is spelled with fewer characters -/

theorem length_dropIdle_le (t : Text) : (dropIdle t).length ≤ t.length := by
  fun_induction dropIdle t with
  | case1 rest ih => simp only [List.length_cons]; omega
  | case2 rest ih => simp only [List.length_cons]; omega
  | case3 t => exact Nat.le_refl _

theorem length_dropWhile_le (f : Char → Bool) (t : Text) :
    (t.dropWhile f).length ≤ t.length :=
  (List.dropWhile_suffix f).length_le

theorem head?_dropIdle_ne (t : Text) : (dropIdle t).head? ≠ some '/' := by
  fun_induction dropIdle t with
  | case1 rest ih => exact ih
  | case2 rest ih => exact ih
  | case3 t h₁ _ =>
    intro h
    match t, h with
    | c :: rest, h =>
      simp only [List.head?_cons, Option.some.injEq] at h
      exact h₁ rest (by rw [h])

theorem length_dropWhile_lt {c : Char} (h : c ≠ '/') (rest : Text) :
    ((c :: rest).dropWhile (· != '/')).length < (c :: rest).length := by
  have hc : (c != '/') = true := by simp [h]
  rw [List.dropWhile_cons, if_pos hc]
  have := length_dropWhile_le (· != '/') rest
  simp only [List.length_cons]
  omega

theorem length_parent?_lt {p q : Path} (h : p.parent? = some q) :
    q.text.length < p.text.length := by
  unfold parent? at h
  have hle := length_dropIdle_le p.text.reverse
  have hne := head?_dropIdle_ne p.text.reverse
  rw [List.length_reverse] at hle
  split at h
  · cases h
  · rename_i last hlast
    match hd : dropIdle p.text.reverse with
    | [] => exact absurd hd hlast
    | c :: rest =>
      rw [hd] at h hle hne
      have hc : c ≠ '/' := by
        intro hc
        exact hne (by simp [hc])
      have hlt := length_dropWhile_lt hc rest
      have hidle := length_dropIdle_le ((c :: rest).dropWhile (· != '/'))
      split at h
      · cases h
        split
        · rename_i habs
          simp only [List.length_cons, List.length_nil]
          match hp : p.text, habs with
          | x :: [], habs =>
            simp only [List.head?_cons, Option.some.injEq] at habs
            subst habs
            rw [hp] at hd
            simp [dropIdle] at hd
          | x :: y :: more, _ => simp only [List.length_cons]; omega
        · simp only [List.length_nil]
          simp only [List.length_cons] at hle
          omega
      · cases h
        simp only [List.length_reverse]
        omega

end Path

end StoryScript
