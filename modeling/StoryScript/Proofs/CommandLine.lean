/-
# `StoryScript.Proofs.CommandLine` — one flag more

Arguments are taken one after the other, and none of them asks whether a flag has been raised
but the one that raises it.  So what has been taken without the dry-run flag is taken in the
same way where the flag stands already.  That holds of each action (`Blind`) and of actions in
a row, and so of all arguments:

    parse args                   an invocation without the flag
    parse (--dry-run :: args)    the same invocation with it
-/
import StoryScript.CommandLine

namespace StoryScript.CommandLine

theorem bind_eq_ok_iff {ε α β : Type} {x : Except ε α} {f : α → Except ε β} {b : β} :
    x.bind f = .ok b ↔ ∃ a, x = .ok a ∧ f a = .ok b := by
  cases x with
  | error _ => exact ⟨nofun, fun ⟨_, h, _⟩ => nomatch h⟩
  | ok a => exact ⟨fun h => ⟨a, rfl, h⟩, fun ⟨_, h, hb⟩ => by cases h; exact hb⟩

namespace Given

/-- What has been given, and the dry-run flag. -/
def dry (g : Given) : Given := { g with dryRun := true }

/-- An action that has not raised the flag, and does the same where it stands. -/
def Blind (act : Given → Except Stop Given) : Prop :=
  ∀ g g', act g = .ok g' → g'.dryRun = false → g.dryRun = false ∧ act g.dry = .ok g'.dry

namespace Blind

theorem ok : Blind Except.ok := by
  intro g g' h hdry
  cases h
  exact ⟨hdry, rfl⟩

theorem error (stop : Stop) : Blind fun _ => .error stop := by
  intro g g' h
  cases h

theorem bind {act next : Given → Except Stop Given} (h : Blind act) (h' : Blind next) :
    Blind fun g => (act g).bind next := by
  intro g g' hok hdry
  obtain ⟨between, hact, hnext⟩ := bind_eq_ok_iff.mp hok
  obtain ⟨hbetween, hnext'⟩ := h' between g' hnext hdry
  obtain ⟨hfirst, hact'⟩ := h g between hact hbetween
  exact ⟨hfirst, bind_eq_ok_iff.mpr ⟨between.dry, hact', hnext'⟩⟩

end Blind

/-! ## Values -/

theorem blind_fill (slot : Slot) (value : Text) : Blind (·.fill slot value) := by
  intro g g' h hdry
  dsimp only at h ⊢
  have hvalue : g.dry.value? slot = g.value? slot := by cases slot <;> rfl
  unfold fill at h ⊢
  rw [hvalue]
  split at h
  · cases h
  · split at h
    · cases h
    · rename_i hvacant hne
      rw [if_neg hvacant, if_neg hne]
      cases slot with
      | input => cases h; exact ⟨hdry, rfl⟩
      | outputDir => cases h; exact ⟨hdry, rfl⟩
      | config => cases h; exact ⟨hdry, rfl⟩

theorem blind_settle : Blind settle := by
  intro g g' h hdry
  have hpending : g.dry.pending = g.pending := rfl
  unfold settle at h ⊢
  rw [hpending]
  split at h
  · exact Blind.ok g g' h hdry
  · cases h
  · rename_i slot value _
    exact blind_fill slot value { g with pending := none } g' h hdry

theorem name_eq (g : Given) (slot : Slot) (value? : Option Text) :
    g.name slot value? = g.settle.bind fun g => match value? with
      | some value => g.fill slot value
      | none => .ok { g with pending := some (slot, none) } := by
  unfold name
  cases g.settle with
  | error stop => rfl
  | ok settled => cases value? <;> rfl

theorem blind_name (slot : Slot) (value? : Option Text) : Blind (·.name slot value?) := by
  simp only [name_eq]
  refine blind_settle.bind ?_
  cases value? with
  | some value => exact blind_fill slot value
  | none =>
      intro g g' h hdry
      cases h
      exact ⟨hdry, rfl⟩

/-! ## Options -/

theorem raise_eq (g : Given) (f : Flag) :
    g.raise f = g.settle.bind fun g => match f with
      | .help => .error .help
      | .version => .error .version
      | .dryRun =>
        if g.dryRun then .error (.refused (.repeated f.display)) else .ok { g with dryRun := true }
      | .verbose =>
        if g.verbose then .error (.refused (.repeated f.display))
        else .ok { g with verbose := true } := by
  unfold raise
  cases g.settle with
  | error stop => rfl
  | ok settled => cases f <;> rfl

theorem blind_raise (f : Flag) : Blind (·.raise f) := by
  simp only [raise_eq]
  refine blind_settle.bind ?_
  cases f with
  | help => exact .error _
  | version => exact .error _
  | dryRun =>
      intro g g' h hdry
      dsimp only at h
      split at h
      · cases h
      · cases h
        cases hdry
  | verbose =>
      intro g g' h hdry
      dsimp only at h ⊢
      split at h
      · cases h
      · rename_i hverbose
        cases h
        exact ⟨hdry, if_neg hverbose⟩

theorem blind_takeLong (body : Text) : Blind (·.takeLong body) := by
  unfold takeLong
  dsimp only
  cases ofName? (body.takeWhile (· != '=')) with
  | none => exact .error _
  | some switch =>
      cases switch with
      | valued slot => exact blind_name slot _
      | flag f =>
          cases body.dropWhile (· != '=') with
          | nil => exact blind_raise f
          | cons _ value => exact .error _

theorem takeLetters_flag {c : Char} {f : Flag} (h : ofLetter? c = some (.flag f)) (g : Given)
    (rest : Text) : g.takeLetters (c :: rest) = (g.raise f).bind (·.takeLetters rest) := by
  rw [takeLetters, h]
  dsimp only
  cases g.raise f <;> rfl

theorem blind_takeLetters (letters : Text) : Blind (·.takeLetters letters) := by
  induction letters with
  | nil => exact .ok
  | cons c rest ih =>
      cases hletter : ofLetter? c with
      | none =>
          simp only [takeLetters, hletter]
          exact .error _
      | some switch =>
          cases switch with
          | flag f =>
              simp only [takeLetters_flag hletter]
              exact (blind_raise f).bind ih
          | valued slot =>
              simp only [takeLetters, hletter]
              split
              · exact blind_name slot none
              · exact blind_name slot _
              · exact blind_name slot _

/-! ## Arguments -/

theorem takeInput_eq (g : Given) (t : Text) :
    g.takeInput t =
      if g.input?.isSome ∨ g.pending.map (·.1) = some .input then .error (.refused (.unknown t))
      else g.settle.bind fun g => .ok { g with pending := some (.input, some t) } := by
  unfold takeInput
  cases g.settle <;> rfl

theorem blind_takeInput (t : Text) : Blind (·.takeInput t) := by
  intro g g' h hdry
  have hinput : g.dry.input? = g.input? := rfl
  have hpending : g.dry.pending = g.pending := rfl
  dsimp only at h ⊢
  rw [takeInput_eq] at h ⊢
  rw [hinput, hpending]
  split at h
  · cases h
  · rename_i hvacant
    rw [if_neg hvacant]
    refine blind_settle.bind ?_ g g' h hdry
    intro g g' h hdry
    cases h
    exact ⟨hdry, rfl⟩

theorem blind_takePlain (t : Text) : Blind (·.takePlain t) := by
  intro g g' h hdry
  have hpending : g.dry.pending = g.pending := rfl
  dsimp only at h ⊢
  unfold takePlain at h ⊢
  rw [hpending]
  split at h
  · cases h
    exact ⟨hdry, rfl⟩
  · rename_i hwaiting
    exact blind_takeInput t g g' h hdry

theorem takeInputs_cons (g : Given) (t : Text) (rest : List Text) :
    g.takeInputs (t :: rest) = (g.takeInput t).bind (·.takeInputs rest) := by
  rw [takeInputs]
  cases g.takeInput t <;> rfl

theorem blind_takeInputs (ts : List Text) : Blind (·.takeInputs ts) := by
  induction ts with
  | nil => exact .ok
  | cons t rest ih =>
      simp only [takeInputs_cons]
      exact (blind_takeInput t).bind ih

theorem blind_take (t : Text) : Blind (·.take t) := by
  unfold take
  split
  · exact blind_takeLong _
  · exact blind_takeLetters _
  · exact blind_takePlain _

theorem takeAll_cons (g : Given) (t : Text) (rest : List Text) :
    g.takeAll (t :: rest) =
      if t = ['-', '-'] then g.takeInputs rest else (g.take t).bind (·.takeAll rest) := by
  rw [takeAll]
  cases g.take t <;> rfl

theorem blind_takeAll (args : List Text) : Blind (·.takeAll args) := by
  induction args with
  | nil => exact .ok
  | cons t rest ih =>
      simp only [takeAll_cons]
      split
      · exact blind_takeInputs rest
      · exact (blind_take t).bind ih

/-- What is asked for in the end tells whether the flag has been raised, and nothing else
depends on it. -/
theorem invocation_dry {g : Given} {inv : Invocation} (h : g.invocation = .ok inv) :
    g.dryRun = inv.dryRun ∧ g.dry.invocation = .ok { inv with dryRun := true } := by
  have hinput : g.dry.input? = g.input? := rfl
  unfold invocation at h ⊢
  rw [hinput]
  split at h
  · cases h
  · cases h
    exact ⟨rfl, rfl⟩

end Given

theorem parse_eq_ok_iff {args : List Text} {inv : Invocation} :
    parse args = .ok inv ↔ ∃ g, ({} : Given).takeAll args = .ok g ∧ ∃ g', g.settle = .ok g' ∧
      g'.invocation = .ok inv := by
  have hparse : parse args =
      (({} : Given).takeAll args).bind fun g => g.settle.bind Given.invocation := rfl
  simp only [hparse, bind_eq_ok_iff]

/-- **The flag can be put in front of all arguments**, and makes the same invocation dry. -/
theorem parse_dryRun {args : List Text} {inv : Invocation} (h : parse args = .ok inv)
    (hreal : inv.dryRun = false) :
    parse ("--dry-run".toList :: args) = .ok { inv with dryRun := true } := by
  obtain ⟨g, htake, g', hsettle, hinvocation⟩ := parse_eq_ok_iff.mp h
  obtain ⟨hdry, hinvocation'⟩ := Given.invocation_dry hinvocation
  obtain ⟨hsettled, hsettle'⟩ := Given.blind_settle g g' hsettle (hdry.trans hreal)
  obtain ⟨-, htake'⟩ := Given.blind_takeAll args {} g htake hsettled
  have hflag : ({} : Given).takeAll ("--dry-run".toList :: args) =
      ({} : Given).dry.takeAll args := by
    rw [Given.takeAll_cons, if_neg (by decide)]
    rfl
  exact parse_eq_ok_iff.mpr ⟨g.dry, hflag.trans htake', g'.dry, hsettle', hinvocation'⟩

end StoryScript.CommandLine
