/-
# `StoryScript.Text.Split` — a text cut at a character

Paths, lists of options and assignments are texts with a character between
their parts.  There is always one part more than there are separators, so an
empty text has one part, which is empty.
-/
import StoryScript.Text.Blank

namespace StoryScript.Text

/-- The parts of the text between the occurrences of `sep`. -/
def splitAt (sep : Char) : Text → List Text
  | [] => [[]]
  | c :: rest =>
    if c = sep then [] :: splitAt sep rest
    else match splitAt sep rest with
      | part :: more => (c :: part) :: more
      | [] => [[c]]

theorem not_mem_of_mem_splitAt {sep : Char} {t part : Text} (h : part ∈ splitAt sep t) :
    sep ∉ part := by
  induction t generalizing part with
  | nil => simp only [splitAt, List.mem_singleton] at h; subst h; exact List.not_mem_nil
  | cons c rest ih =>
    simp only [splitAt] at h
    split at h
    · rcases List.mem_cons.mp h with rfl | h
      · exact List.not_mem_nil
      · exact ih h
    · rename_i hc
      split at h
      · rename_i first more hs
        rcases List.mem_cons.mp h with rfl | h
        · intro hm
          rcases List.mem_cons.mp hm with rfl | hm
          · exact hc rfl
          · exact ih (by rw [hs]; exact List.mem_cons_self ..) hm
        · exact ih (by rw [hs]; exact List.mem_cons_of_mem _ h)
      · simp only [List.mem_singleton] at h
        subst h
        simpa using fun h => hc h.symm

/-- The texts before and after the first occurrence of `sep`, if there is one. -/
def splitAtText (sep : Text) : Text → Option (Text × Text)
  | [] => none
  | c :: rest =>
    if sep.isPrefixOf (c :: rest) then some ([], (c :: rest).drop sep.length)
    else (splitAtText sep rest).map fun (before, after) => (c :: before, after)

/-- The number of bytes of the text in UTF-8. -/
def utf8Length (t : Text) : Nat := t.foldl (fun n c => n + c.utf8Size) 0

theorem foldl_utf8Size (t : Text) (n : Nat) :
    t.foldl (fun n c => n + c.utf8Size) n = n + utf8Length t := by
  induction t generalizing n with
  | nil => rfl
  | cons c rest ih =>
    simp only [utf8Length, List.foldl_cons, Nat.zero_add]
    rw [ih, ih]
    omega

theorem utf8Length_cons (c : Char) (t : Text) :
    utf8Length (c :: t) = c.utf8Size + utf8Length t := by
  simp only [utf8Length, List.foldl_cons, Nat.zero_add]
  exact foldl_utf8Size t _

theorem utf8Length_append (t u : Text) :
    utf8Length (t ++ u) = utf8Length t + utf8Length u := by
  rw [utf8Length, List.foldl_append]
  exact foldl_utf8Size u _

end StoryScript.Text
