/-
# `StoryScript.Roster` — names in the order of their first appearance

A compilation keeps two such lists, the scenes of the script and the speakers
heard in them.  A name enters once: entering it again is refused, and what
the refusal means is up to the caller — an error for a scene, nothing special
for a speaker.

The names stand on a roster twice, in a list that keeps their order and in a
set that is asked whether a name is there:

    offered    Bob    Ann         Bob         Cid
    answer     new    new         refused     new
    list       Bob    Bob, Ann    Bob, Ann    Bob, Ann, Cid
-/
import Std.Data.TreeSet.Lemmas
import StoryScript.Failure

namespace StoryScript

/-- A list of names without repeats, and the set of the same names. -/
structure Roster where
  names : List Text
  seen : Std.TreeSet Text
  nodup : names.Nodup
  mem_seen (n : Text) : n ∈ seen ↔ n ∈ names

namespace Roster

/-- The roster nobody has entered. -/
def empty : Roster where
  names := []
  seen := ∅
  nodup := List.nodup_nil
  mem_seen _ := ⟨fun h => absurd h Std.TreeSet.not_mem_emptyc, fun h => absurd h List.not_mem_nil⟩

instance : EmptyCollection Roster := ⟨empty⟩

instance : Inhabited Roster := ⟨empty⟩

instance : Membership Text Roster := ⟨fun r n => n ∈ r.names⟩

theorem mem_names {n : Text} {r : Roster} : n ∈ r ↔ n ∈ r.names := Iff.rfl

-- The set is asked, and not the list.
instance (n : Text) (r : Roster) : Decidable (n ∈ r) :=
  decidable_of_iff (n ∈ r.seen) (r.mem_seen n)

theorem nodup_snoc {r : Roster} {n : Text} (h : n ∉ r) : (r.names ++ [n]).Nodup := by
  rw [List.nodup_append]
  refine ⟨r.nodup, List.nodup_cons.mpr ⟨List.not_mem_nil, List.nodup_nil⟩, ?_⟩
  intro a ha b hb hab
  rw [List.mem_singleton] at hb
  subst hb hab
  exact h ha

theorem mem_insert_seen {r : Roster} {n m : Text} :
    m ∈ r.seen.insert n ↔ m ∈ r.names ++ [n] := by
  rw [Std.TreeSet.mem_insert, Std.LawfulEqCmp.compare_eq_iff_eq, r.mem_seen, List.mem_append,
    List.mem_singleton, eq_comm, or_comm]

/-- The roster with `n` entered last, or nothing if `n` is on it already. -/
def enter? (r : Roster) (n : Text) : Option Roster :=
  if h : n ∈ r then none
  else some ⟨r.names ++ [n], r.seen.insert n, nodup_snoc h, fun _ => mem_insert_seen⟩

theorem enter?_eq_none_iff {r : Roster} {n : Text} : r.enter? n = none ↔ n ∈ r := by
  unfold enter?
  split <;> simp_all

theorem not_mem_of_enter? {r r' : Roster} {n : Text} (h : r.enter? n = some r') : n ∉ r := by
  rw [← enter?_eq_none_iff, h]
  exact Option.some_ne_none r'

theorem names_enter? {r r' : Roster} {n : Text} (h : r.enter? n = some r') :
    r'.names = r.names ++ [n] := by
  unfold enter? at h
  split at h
  · cases h
  · cases h; rfl

/-! ## Offering a name -/

section Offer

variable {α : Type} {entered refused : α} {r r' : Roster} {n : Text}

/-- Enters `n` if it is new, and tells by one of two answers whether it was.  A roster that
has the name stays as it is. -/
def offer (entered refused : α) (r : Roster) (n : Text) : α × Roster :=
  match r.enter? n with
  | some r' => (entered, r')
  | none => (refused, r)

theorem offer_of_mem (h : n ∈ r) : r.offer entered refused n = (refused, r) := by
  rw [offer, enter?_eq_none_iff.mpr h]

theorem offer_of_enter (h : r.enter? n = some r') :
    r.offer entered refused n = (entered, r') := by
  rw [offer, h]

theorem fst_offer (r : Roster) (n : Text) :
    (r.offer entered refused n).1 = if n ∈ r then refused else entered := by
  cases henter : r.enter? n with
  | none =>
      have hmem := enter?_eq_none_iff.mp henter
      rw [offer_of_mem hmem, if_pos hmem]
  | some r' =>
      rw [offer_of_enter henter, if_neg (not_mem_of_enter? henter)]

theorem snd_offer (r : Roster) (n : Text) :
    (r.offer entered refused n).2 = (r.enter? n).getD r := by
  rw [offer]
  cases r.enter? n <;> rfl

end Offer

/-- Enters the name of a scene, which no scene may have had. -/
def register (r : Roster) (n : Text) : Except Failure Unit × Roster :=
  r.offer (.ok ()) (.error (.duplicateScene n)) n

/-- Enters the name of a speaker: is it new? -/
def insert (r : Roster) (n : Text) : Bool × Roster :=
  r.offer true false n

section Answers

variable {r : Roster} {n : Text}

theorem fst_register_eq_error_iff : (r.register n).1 = .error (.duplicateScene n) ↔ n ∈ r := by
  simp [register, fst_offer]

theorem fst_register_eq_ok_iff : (r.register n).1 = .ok () ↔ n ∉ r := by
  simp [register, fst_offer]

theorem fst_insert_eq_false_iff : (r.insert n).1 = false ↔ n ∈ r := by
  simp [insert, fst_offer]

end Answers

theorem snd_register (r : Roster) (n : Text) : (r.register n).2 = (r.enter? n).getD r :=
  snd_offer r n

theorem snd_insert (r : Roster) (n : Text) : (r.insert n).2 = (r.enter? n).getD r :=
  snd_offer r n

end Roster

end StoryScript
