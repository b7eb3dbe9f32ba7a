/-
# `StoryScript.Proofs.Config.Overriding` — settings that are given, and those that are not

A file of settings is an object that gives some of them by their keys, or a list that gives
the first few:

    { "other": [1], "\u0065xtension": "txt", "other": null }
    ["Start", "Act"]

What a file gives is read off its text as it is written (`Bracketed`, `IsMember`): the keys
and the strings by what they spell, all other values by the grammar of JSON alone.  The
result is the defaults with what is given in their place (`overriding`).  It depends on the
settings that are given and on nothing else, so neither on the order of the keys nor on the
keys that mean nothing (`configOn_overrides`).  Any choice of settings can be given in such
a file (`exists_read_eq_overriding`).

The induction is on the members.  After some of them, what is still to come gives the
settings that were not given before (`Gives.tail`), and they are put over those that the
members so far have left; a member that means nothing leaves them as they are
(`readMembers_cons`).  A setting that comes twice is another induction, since it must be
refused whatever its values are.  There it is enough that a setting is passed only if it is
new, and is then no longer new (`readMembers_passes`).
-/
import Mathlib.Data.List.Nodup
import StoryScript.Program
import StoryScript.Proofs.Json.Grammar

namespace StoryScript

namespace Json

variable {α : Type} {P : α → Text → Prop}

/-- Items with commas between them. -/
inductive Separated (P : α → Text → Prop) : List α → Text → Prop
  | last {item : α} {t : Text} : P item t → Separated P [item] t
  | more {item : α} {items : List α} {t t' : Text} :
      P item t → Separated P items t' → Separated P (item :: items) (t ++ ',' :: t')

/-- A text with a bracket in it and nothing else but blanks. -/
inductive Bracketed (b : Bracket) (P : α → Text → Prop) : List α → Text → Prop
  | empty {u w x : Text} : IsBlanks u → IsBlanks w → IsBlanks x →
      Bracketed b P [] (u ++ opener b :: (w ++ closer b :: x))
  | items {items : List α} {u t x : Text} : IsBlanks u → Separated P items t → IsBlanks x →
      Bracketed b P items (u ++ opener b :: (t ++ closer b :: x))

/-- A value that is a string, with the text in it. -/
inductive Quoted (t : Text) : Text → Prop
  | string {body : Text} : Spells body t → Quoted t ('"' :: (body ++ ['"']))

/-- An element of a list that is a string. -/
inductive IsString (t : Text) : Text → Prop
  | blanks {u v w : Text} : IsBlanks u → Quoted t v → IsBlanks w → IsString t (u ++ (v ++ w))

/-- A member of an object: the key, and the value as it is written. -/
structure Member where
  key : Text
  value : Text

/-- How a member may be written. -/
inductive IsMember (m : Member) : Text → Prop
  | parts {u body w x y : Text} : IsBlanks u → Spells body m.key → IsBlanks w → IsBlanks x →
      WellFormed .value m.value → IsBlanks y →
      IsMember m (u ++ '"' :: (body ++ '"' :: (w ++ ':' :: (x ++ (m.value ++ y)))))

theorem Quoted.wellFormed {t v : Text} (h : Quoted t v) : WellFormed .value v := by
  obtain ⟨hspells⟩ := h
  exact .string hspells.isBody

theorem exists_quoted (t : Text) : ∃ v, Quoted t v := by
  obtain ⟨body, hbody⟩ := exists_spells t
  exact ⟨_, .string hbody⟩

theorem isBlanks_nil : IsBlanks [] := fun _ hc => absurd hc List.not_mem_nil

theorem exists_isMember {m : Member} (h : WellFormed .value m.value) : ∃ t, IsMember m t := by
  obtain ⟨body, hbody⟩ := exists_spells m.key
  exact ⟨_, .parts isBlanks_nil hbody isBlanks_nil isBlanks_nil h isBlanks_nil⟩

theorem exists_bracketed {items : List α} (h : ∀ item ∈ items, ∃ t, P item t) (b : Bracket) :
    ∃ t, Bracketed b P items t := by
  have hseparated : items ≠ [] → ∃ t, Separated P items t := by
    induction items with
    | nil => exact fun hne => absurd rfl hne
    | cons item more ih =>
        intro _
        obtain ⟨⟨t, ht⟩, hmore⟩ := List.forall_mem_cons.mp h
        cases more with
        | nil => exact ⟨t, .last ht⟩
        | cons _ _ =>
            obtain ⟨t', ht'⟩ := ih hmore (List.cons_ne_nil _ _)
            exact ⟨_, .more ht ht'⟩
  by_cases hne : items = []
  · subst hne
    exact ⟨_, .empty isBlanks_nil isBlanks_nil isBlanks_nil⟩
  · obtain ⟨t, ht⟩ := hseparated hne
    exact ⟨_, .items isBlanks_nil ht isBlanks_nil⟩

end Json

open Json

/-- The members of an object give these settings, each of them once, and no others. -/
structure Gives (members : List Member) (given : Setting → Option Text) : Prop where
  once : ∀ s : Setting, (members.map Member.key).count s.key ≤ 1
  value : ∀ m ∈ members, ∀ s : Setting, m.key = s.key → ∃ t, given s = some t ∧ Quoted t m.value
  has : ∀ s : Setting, (given s).isSome → s.key ∈ members.map Member.key

/-! ## Keys -/

namespace Setting

theorem ofKey?_eq_some_iff {t : Text} {s : Setting} : ofKey? t = some s ↔ s.key = t := by
  constructor
  · intro h
    have hkey := List.find?_some h
    exact eq_of_beq hkey
  · rintro rfl
    exact ofKey?_key s

theorem ofKey?_eq_none_iff {t : Text} : ofKey? t = none ↔ ∀ s : Setting, s.key ≠ t := by
  simp only [Option.eq_none_iff_forall_ne_some, ne_eq, ofKey?_eq_some_iff]

theorem key_inj {s s' : Setting} (h : s.key = s'.key) : s = s' :=
  Option.some.inj ((ofKey?_key s).symm.trans (ofKey?_eq_some_iff.mpr h.symm))

end Setting

namespace Gives

variable {m : Member} {members : List Member} {given : Setting → Option Text} {s : Setting}

theorem not_mem_tail (h : Gives (m :: members) given) (hs : s.key = m.key) :
    s.key ∉ members.map Member.key := by
  have honce := h.once s
  rw [List.map_cons, hs, List.count_cons_self] at honce
  rw [hs]
  exact List.count_eq_zero.mp (by omega)

theorem tail (h : Gives (m :: members) given) :
    Gives members fun s => if s.key = m.key then none else given s where
  once s := Nat.le_trans List.count_le_count_cons (h.once s)
  value m' hm' s hs := by
    have hne : s.key ≠ m.key := fun heq =>
      h.not_mem_tail heq (hs ▸ List.mem_map_of_mem hm')
    rw [if_neg hne]
    exact h.value m' (List.mem_cons_of_mem m hm') s hs
  has s hs := by
    have hne : s.key ≠ m.key := by
      intro heq
      rw [if_pos heq] at hs
      cases hs
    rw [if_neg hne] at hs
    exact (List.mem_cons.mp (h.has s hs)).resolve_left hne

theorem eq_none_of_nil (h : Gives [] given) (s : Setting) : given s = none :=
  Option.not_isSome_iff_eq_none.mp fun hs => List.not_mem_nil (h.has s hs)

theorem exists_members (given : Setting → Option Text) :
    ∃ members, Gives members given ∧ ∀ m ∈ members, WellFormed .value m.value := by
  obtain ⟨value, hvalue⟩ := Classical.skolem.mp exists_quoted
  let named := Setting.all.filter fun s => (given s).isSome
  let member (s : Setting) : Member := ⟨s.key, value ((given s).getD [])⟩
  have hkeys : (named.map member).map Member.key = named.map Setting.key := by
    rw [List.map_map]
    rfl
  refine ⟨named.map member, ⟨?_, ?_, ?_⟩, ?_⟩
  · intro s
    have hsub : (named.map Setting.key).Sublist (Setting.all.map Setting.key) :=
      List.filter_sublist.map Setting.key
    have hnodup : (named.map Setting.key).Nodup := hsub.nodup (by decide)
    rw [hkeys]
    exact List.nodup_iff_count_le_one.mp hnodup s.key
  · intro m hm s hkey
    obtain ⟨s', hs', rfl⟩ := List.mem_map.mp hm
    cases Setting.key_inj hkey
    obtain ⟨t, ht⟩ := Option.isSome_iff_exists.mp (List.mem_filter.mp hs').2
    refine ⟨t, ht, ?_⟩
    simp only [member, ht, Option.getD_some]
    exact hvalue t
  · intro s hs
    rw [hkeys]
    exact List.mem_map_of_mem (List.mem_filter.mpr ⟨s.mem_all, hs⟩)
  · intro m hm
    obtain ⟨s, _, rfl⟩ := List.mem_map.mp hm
    exact (hvalue _).wellFormed

end Gives

namespace Config

/-- The defaults with the given settings in their place. -/
def overriding (given : Setting → Option Text) : Config :=
  let get (s : Setting) : Text := (given s).getD (({} : Config).get s)
  ⟨get .entryPoint, get .sceneToken, ⟨get .scenesDir⟩, get .extension, ⟨get .transitionFile⟩,
    ⟨get .dialogFile⟩⟩

theorem eq_overriding {cfg : Config} {given : Setting → Option Text}
    (h : ∀ s, cfg.get s = (given s).getD (({} : Config).get s)) : cfg = overriding given := by
  simp only [overriding, ← h]
  rfl

variable {cfg : Config} {seen : List Setting} {isFirst : Bool}
  {lead t rest u v w x after value : Text} {s : Setting} {wanted : Wanted} {m : Member}
  {members : List Member} {given : Setting → Option Text} {c : Char}

/-! ## Values -/

theorem readValue_quote (hx : IsBlanks x) (wanted : Wanted) (t : Text) :
    readValue wanted (x ++ '"' :: t) = readText t := by
  rw [readValue, skipBlanks_append_cons hx rfl]
  rfl

theorem readValue_of_quoted (hx : IsBlanks x) (h : Quoted t v) (wanted : Wanted) (rest : Text) :
    readValue wanted (x ++ (v ++ rest)) = .ok (t, rest) := by
  obtain ⟨hspells⟩ := h
  rw [List.cons_append, readValue_quote hx, List.append_assoc]
  exact readText_of_spells hspells rest

theorem readValue_of_ne_quote (hx : IsBlanks x) {c : Char} (hc : isBlank c = false)
    (hquote : c ≠ '"') (wanted : Wanted) (t : Text) :
    readValue wanted (x ++ c :: t) = .error (misfit wanted (c :: t)) := by
  rw [readValue, skipBlanks_append_cons hx hc]
  split
  · rename_i h
    cases h
  · rename_i h
    exact absurd (List.cons.inj h).1 hquote
  · rfl

theorem readValue_of_wellFormed (hx : IsBlanks x) (h : WellFormed .value v) (wanted : Wanted)
    (rest : Text) : (∃ f, readValue wanted (x ++ (v ++ rest)) = .error f) ∨
      ∃ t, readValue wanted (x ++ (v ++ rest)) = .ok (t, rest) := by
  rcases h.eq_string_or_cons with ⟨body, rfl, hbody⟩ | ⟨c, more, rfl, hc, hquote⟩
  · rw [List.cons_append, readValue_quote hx, List.append_assoc]
    -- half of a pair is well formed and cannot be read, so a string may be refused as well
    cases hread : readText (body ++ (['"'] ++ rest)) with
    | error f => exact Or.inl ⟨f, rfl⟩
    | ok read =>
        obtain ⟨t, after⟩ := read
        have hskip := skipText_of_readText hread
        rw [List.singleton_append, skipText_of_isBody hbody] at hskip
        cases hskip
        exact Or.inr ⟨t, rfl⟩
  · exact Or.inl ⟨_, readValue_of_ne_quote hx (isBlank_of_not_mem_gaps hc) hquote wanted _⟩

/-! ## Members -/

/-- What comes in front of a member: nothing if it is the first, or else a comma. -/
inductive Opens : Bool → Text → Prop
  | first : Opens true []
  | next {w : Text} : IsBlanks w → Opens false (w ++ [','])

theorem openKey_of_opens (h : Opens isFirst lead) (hu : IsBlanks u) (t : Text) :
    openKey isFirst (lead ++ (u ++ '"' :: t)) = .ok (some t) := by
  cases h with
  | first =>
      rw [List.nil_append, openKey, skipBlanks_append_cons hu rfl]
      rfl
  | next hw =>
      have hkey : skipBlanks (u ++ '"' :: t) = '"' :: t := skipBlanks_append_cons hu rfl t
      rw [List.append_assoc, List.singleton_append, openKey, skipBlanks_append_cons hw rfl]
      simp [hkey]

theorem openKey_closer (hw : IsBlanks w) (isFirst : Bool) (t : Text) :
    openKey isFirst (w ++ '\x7d' :: t) = .ok none := by
  rw [openKey, skipBlanks_append_cons hw rfl]
  rfl

/-- What an object comes to from behind a key on. -/
def readOn (cfg : Config) (seen : List Setting) (key t : Text) : Except Fault (Config × Text) :=
  match Setting.ofKey? key with
  | some s =>
    if s ∈ seen then
      let unread := skipBlanks t
      .error ⟨.duplicateKey key, if unread.head? = some '\x7d' then unread.tail else unread, 0⟩
    else (readColon t).bind fun t => (readValue s.wanted t).bind fun read =>
      readMembers (cfg.set s read.1) (s :: seen) false read.2
  | none => (readColon t).bind fun t => (skipValue t).bind fun t => readMembers cfg seen false t

theorem readMembers_of_key {t₁ t₂ key : Text} (hopen : openKey isFirst t = .ok (some t₁))
    (hkey : readText t₁ = .ok (key, t₂)) (cfg : Config) (seen : List Setting) :
    readMembers cfg seen isFirst t = readOn cfg seen key t₂ := by
  rw [readMembers]
  split
  · rename_i h
    rw [hopen] at h
    cases h
  · rename_i h
    rw [hopen] at h
    cases h
  · rename_i h
    rw [hopen] at h
    cases h
    split
    · rename_i h
      rw [hkey] at h
      cases h
    · rename_i h
      rw [hkey] at h
      cases h
      split
      · rename_i s hs
        by_cases hmem : s ∈ seen
        · simp only [readOn, hs, if_pos hmem]
        · simp only [readOn, hs, if_neg hmem]
          split
          · rename_i hcolon
            rw [hcolon, Except.bind]
          · rename_i hcolon
            rw [hcolon, Except.bind]
            split
            · rename_i hvalue
              rw [hvalue, Except.bind]
            · rename_i hvalue
              rw [hvalue, Except.bind]
      · rename_i hs
        simp only [readOn, hs]
        split
        · rename_i hcolon
          rw [hcolon, Except.bind]
        · rename_i hcolon
          rw [hcolon, Except.bind]
          split
          · rename_i hvalue
            rw [hvalue, Except.bind]
          · rename_i hvalue
            rw [hvalue, Except.bind]

theorem readMembers_of_isMember (h : IsMember m t) (hopens : Opens isFirst lead) (cfg : Config)
    (seen : List Setting) (after : Text) : ∃ w x y, IsBlanks w ∧ IsBlanks x ∧ IsBlanks y ∧
      WellFormed .value m.value ∧ readMembers cfg seen isFirst (lead ++ (t ++ after)) =
        readOn cfg seen m.key (w ++ ':' :: (x ++ (m.value ++ (y ++ after)))) := by
  obtain @⟨u, body, w, x, y, hu, hbody, hw, hx, hvalue, hy⟩ := h
  have hkey := readText_of_spells hbody (w ++ ':' :: (x ++ (m.value ++ (y ++ after))))
  have hread := readMembers_of_key (openKey_of_opens hopens hu _) hkey cfg seen
  have hparts : u ++ '"' :: (body ++ '"' :: (w ++ ':' :: (x ++ (m.value ++ y)))) ++ after =
      u ++ '"' :: (body ++ '"' :: (w ++ ':' :: (x ++ (m.value ++ (y ++ after))))) := by
    simp only [List.append_assoc, List.cons_append]
  rw [hparts, hread]
  exact ⟨w, x, y, hw, hx, hy, hvalue, rfl⟩

theorem readMembers_end (hw : IsBlanks w) (cfg : Config) (seen : List Setting) (isFirst : Bool)
    (rest : Text) : readMembers cfg seen isFirst (w ++ '\x7d' :: rest) = .ok (cfg, rest) := by
  have hend := openKey_closer hw isFirst rest
  rw [readMembers]
  split
  · rename_i h
    rw [hend] at h
    cases h
  · rw [skipBlanks_append_cons hw rfl]
    rfl
  · rename_i h
    rw [hend] at h
    cases h

theorem readMembers_unknown (h : IsMember m t) (hopens : Opens isFirst lead)
    (hkey : Setting.ofKey? m.key = none) (hc : c ∈ [',', ']', '\x7d']) (cfg : Config)
    (seen : List Setting) (rest : Text) : ∃ y, IsBlanks y ∧
      readMembers cfg seen isFirst (lead ++ (t ++ c :: rest)) =
        readMembers cfg seen false (y ++ c :: rest) := by
  obtain ⟨w, x, y, hw, hx, hy, hvalue, hread⟩ :=
    readMembers_of_isMember h hopens cfg seen (c :: rest)
  have hskip := skipValue_of_wellFormed hvalue hx (Ends.blanks_append hy hc rest)
  refine ⟨y, hy, hread.trans ?_⟩
  simp only [readOn, hkey, readColon_append hw, hskip, Except.bind]

theorem readMembers_cons (h : IsMember m t) (hopens : Opens isFirst lead)
    (hgives : Gives (m :: members) given) (hseen : ∀ s ∈ seen, s.key ≠ m.key)
    (hc : c ∈ [',', ']', '\x7d']) (cfg : Config) (rest : Text) :
    ∃ (y : Text) (cfg' : Config) (seen' : List Setting), IsBlanks y ∧
      readMembers cfg seen isFirst (lead ++ (t ++ c :: rest)) =
        readMembers cfg' seen' false (y ++ c :: rest) ∧
      (∀ s, cfg'.get s = if s.key = m.key then (given s).getD (cfg.get s) else cfg.get s) ∧
      ∀ s ∈ seen', s ∈ seen ∨ s.key = m.key := by
  cases hkey : Setting.ofKey? m.key with
  | none =>
      have hother := Setting.ofKey?_eq_none_iff.mp hkey
      obtain ⟨y, hy, hread⟩ := readMembers_unknown h hopens hkey hc cfg seen rest
      exact ⟨y, cfg, seen, hy, hread, fun s => (if_neg (hother s)).symm, fun s => Or.inl⟩
  | some s₀ =>
      have hs₀ := Setting.ofKey?_eq_some_iff.mp hkey
      obtain ⟨w, x, y, hw, hx, hy, -, hread⟩ :=
        readMembers_of_isMember h hopens cfg seen (c :: rest)
      obtain ⟨value, hgiven, hquoted⟩ := hgives.value m List.mem_cons_self s₀ hs₀.symm
      refine ⟨y, cfg.set s₀ value, s₀ :: seen, hy, ?_, ?_, ?_⟩
      · have hnew : s₀ ∉ seen := fun hmem => hseen s₀ hmem hs₀
        refine hread.trans ?_
        simp only [readOn, hkey, if_neg hnew, readColon_append hw, readValue_of_quoted hx hquoted,
          Except.bind]
      · intro s
        rw [get_set]
        by_cases hs : s = s₀
        · rw [if_pos hs, hs, if_pos hs₀, hgiven, Option.getD_some]
        · rw [if_neg hs, if_neg fun heq => hs (Setting.key_inj (heq.trans hs₀.symm))]
      · intro s hs
        rcases List.mem_cons.mp hs with rfl | hs
        · exact Or.inr hs₀
        · exact Or.inl hs

/-- **The members of an object override what they name**, and nothing else. -/
theorem readMembers_of_separated (h : Separated IsMember members t)
    (hgives : Gives members given) (hopens : Opens isFirst lead)
    (hseen : ∀ s ∈ seen, s.key ∉ members.map Member.key) (cfg : Config) (rest : Text) :
    ∃ cfg' : Config,
      readMembers cfg seen isFirst (lead ++ (t ++ '\x7d' :: rest)) = .ok (cfg', rest) ∧
      ∀ s, cfg'.get s = (given s).getD (cfg.get s) := by
  induction h generalizing given isFirst lead seen cfg with
  | @last m t hm =>
      have hseen' : ∀ s ∈ seen, s.key ≠ m.key := fun s hs heq =>
        hseen s hs (List.mem_singleton.mpr heq)
      obtain ⟨y, cfg', seen', hy, hread, hget, -⟩ :=
        readMembers_cons hm hopens hgives hseen' (c := '\x7d') (by decide) cfg rest
      refine ⟨cfg', hread.trans (readMembers_end hy cfg' seen' false rest), fun s => ?_⟩
      rw [hget s]
      split
      · rfl
      -- no member is left that could give any other setting
      · rename_i hs
        have hnone := hgives.tail.eq_none_of_nil s
        rw [if_neg hs] at hnone
        rw [hnone, Option.getD_none]
  | @more m members t t' hm _ ih =>
      have hseen' : ∀ s ∈ seen, s.key ≠ m.key := fun s hs heq =>
        hseen s hs (heq ▸ List.mem_cons_self)
      obtain ⟨y, cfg', seen', hy, hread, hget, hmem⟩ :=
        readMembers_cons hm hopens hgives hseen' (c := ',') (by decide) cfg (t' ++ '\x7d' :: rest)
      have hseen'' : ∀ s ∈ seen', s.key ∉ members.map Member.key := by
        intro s hs
        rcases hmem s hs with hs | hs
        · exact fun hkey => hseen s hs (List.mem_cons_of_mem m.key hkey)
        · exact hgives.not_mem_tail hs
      obtain ⟨cfg'', hread', hget'⟩ := ih hgives.tail (.next hy) hseen'' cfg'
      refine ⟨cfg'', ?_, fun s => ?_⟩
      · rw [List.append_assoc, List.cons_append, hread, ← hread', List.append_assoc,
          List.singleton_append]
      · rw [hget' s, hget s]
        split
        · rfl
        · rfl

/-! ## Keys that are repeated -/

/-- Any member is refused, or it is passed; a setting is passed only if it is new. -/
theorem readMembers_passes (h : IsMember m t) (hopens : Opens isFirst lead)
    (hc : c ∈ [',', ']', '\x7d']) (cfg : Config) (seen : List Setting) (rest : Text) :
    (∃ f, readMembers cfg seen isFirst (lead ++ (t ++ c :: rest)) = .error f) ∨
      ∃ (y : Text) (cfg' : Config) (seen' : List Setting), IsBlanks y ∧
        readMembers cfg seen isFirst (lead ++ (t ++ c :: rest)) =
          readMembers cfg' seen' false (y ++ c :: rest) ∧
        (∀ s, s.key = m.key → s ∉ seen ∧ s ∈ seen') ∧ ∀ s ∈ seen, s ∈ seen' := by
  cases hkey : Setting.ofKey? m.key with
  | none =>
      have hother := Setting.ofKey?_eq_none_iff.mp hkey
      obtain ⟨y, hy, hread⟩ := readMembers_unknown h hopens hkey hc cfg seen rest
      exact Or.inr ⟨y, cfg, seen, hy, hread, fun s hs => absurd hs (hother s), fun _ hs => hs⟩
  | some s₀ =>
      have hs₀ := Setting.ofKey?_eq_some_iff.mp hkey
      obtain ⟨w, x, y, hw, hx, hy, hvalue, hread⟩ :=
        readMembers_of_isMember h hopens cfg seen (c :: rest)
      by_cases hmem : s₀ ∈ seen
      · simp only [readOn, hkey, if_pos hmem] at hread
        exact Or.inl ⟨_, hread⟩
      · simp only [readOn, hkey, if_neg hmem, readColon_append hw, Except.bind] at hread
        rcases readValue_of_wellFormed hx hvalue s₀.wanted (y ++ c :: rest) with
          ⟨f, hf⟩ | ⟨value, hf⟩
        · simp only [hf] at hread
          exact Or.inl ⟨f, hread⟩
        · simp only [hf] at hread
          refine Or.inr ⟨y, cfg.set s₀ value, s₀ :: seen, hy, hread, fun s hs => ?_,
            fun _ => List.mem_cons_of_mem s₀⟩
          rw [Setting.key_inj (hs.trans hs₀.symm)]
          exact ⟨hmem, List.mem_cons_self⟩

theorem count_of_passed {seen' : List Setting}
    (hnew : ∀ s : Setting, s.key = m.key → s ∉ seen ∧ s ∈ seen') (hkept : ∀ s ∈ seen, s ∈ seen')
    (members : List Member) (s : Setting) :
    (((m :: members).map Member.key).count s.key + if s ∈ seen then 1 else 0) ≤
      (members.map Member.key).count s.key + if s ∈ seen' then 1 else 0 := by
  rw [List.map_cons, List.count_cons]
  by_cases hs : s.key = m.key
  · refine Nat.le_of_eq ?_
    rw [if_neg (hnew s hs).1, if_pos (hnew s hs).2, if_pos (beq_iff_eq.mpr hs.symm)]
  · rw [if_neg fun h => hs (eq_of_beq h).symm]
    by_cases hmem : s ∈ seen
    · refine Nat.le_of_eq ?_
      rw [if_pos hmem, if_pos (hkept s hmem)]
    · rw [if_neg hmem]
      exact Nat.le_add_right _ _

/-- **A setting that comes twice is refused**, whatever is given as its value. -/
theorem readMembers_of_repeated (h : Separated IsMember members t) (hopens : Opens isFirst lead)
    (hcount : 2 ≤ (members.map Member.key).count s.key + if s ∈ seen then 1 else 0)
    (cfg : Config) (rest : Text) :
    ∃ f, readMembers cfg seen isFirst (lead ++ (t ++ '\x7d' :: rest)) = .error f := by
  induction h generalizing isFirst lead seen cfg with
  | @last m t hm =>
      rcases readMembers_passes hm hopens (c := '\x7d') (by decide) cfg seen rest with
        hf | ⟨_, _, seen', _, _, hnew, hkept⟩
      · exact hf
      -- what is no longer to come can have been seen, but only once
      · have hcount' := Nat.le_trans hcount (count_of_passed hnew hkept [] s)
        rw [List.map_nil, List.count_nil] at hcount'
        split at hcount' <;> omega
  | @more m members t t' hm _ ih =>
      rw [List.append_assoc, List.cons_append]
      rcases readMembers_passes hm hopens (c := ',') (by decide) cfg seen (t' ++ '\x7d' :: rest)
        with hf | ⟨y, cfg', seen', hy, hread, hnew, hkept⟩
      · exact hf
      · have hcount' := Nat.le_trans hcount (count_of_passed hnew hkept members s)
        obtain ⟨f, hf⟩ := ih (.next hy) hcount' cfg'
        rw [List.append_assoc, List.singleton_append] at hf
        exact ⟨f, hread.trans hf⟩

/-! ## Lists -/

theorem openElement_of_opens (h : Opens isFirst lead) (hu : IsBlanks u) (t : Text) :
    openElement isFirst (lead ++ (u ++ '"' :: t)) = .ok (some ('"' :: t)) := by
  have hquote : skipBlanks (u ++ '"' :: t) = '"' :: t := skipBlanks_append_cons hu rfl t
  cases h with
  | first =>
      rw [List.nil_append, openElement, hquote]
      rfl
  | next hw =>
      rw [List.append_assoc, List.singleton_append, openElement, skipBlanks_append_cons hw rfl]
      simp [hquote]

theorem readElements_end (hw : IsBlanks w) (cfg : Config) (isFirst : Bool)
    (settings : List Setting) (rest : Text) :
    readElements cfg isFirst (w ++ ']' :: rest) settings = .ok (cfg, rest) := by
  have hblanks : skipBlanks (w ++ ']' :: rest) = ']' :: rest := skipBlanks_append_cons hw rfl rest
  cases settings with
  | nil => simp only [readElements, closeList, hblanks]
  | cons s more => simp only [readElements, openElement, hblanks, List.tail_cons]

theorem readElements_cons (h : IsString value t) (hopens : Opens isFirst lead) (cfg : Config)
    (s : Setting) (more : List Setting) (after : Text) : ∃ y, IsBlanks y ∧
      readElements cfg isFirst (lead ++ (t ++ after)) (s :: more) =
        readElements (cfg.set s value) false (y ++ after) more := by
  obtain @⟨u, v, w, hu, hquoted, hw⟩ := h
  have hread := readValue_of_quoted isBlanks_nil hquoted s.wanted (w ++ after)
  obtain @⟨body, hspells⟩ := hquoted
  refine ⟨w, hw, ?_⟩
  simp only [List.append_assoc, List.cons_append, List.nil_append] at hread ⊢
  simp only [readElements, openElement_of_opens hopens hu, hread]

theorem getD_idxOf_cons (ts : List Text) {s₀ : Setting} {more : List Setting} (hs₀ : s₀ ∉ more)
    (hle : ts.length ≤ more.length) (cfg : Config) (value : Text) (s : Setting) :
    ts[more.idxOf s]?.getD ((cfg.set s₀ value).get s) =
      (value :: ts)[(s₀ :: more).idxOf s]?.getD (cfg.get s) := by
  rw [get_set]
  by_cases hs : s = s₀
  · have hnone : ts[more.idxOf s]? = none := by
      rw [List.getElem?_eq_none_iff, hs, List.idxOf_eq_length hs₀]
      exact hle
    rw [hnone, Option.getD_none, if_pos hs, hs, List.idxOf_cons_self]
    rfl
  · have hbeq : (s₀ == s) = false := beq_eq_false_iff_ne.mpr fun heq => hs heq.symm
    rw [if_neg hs, List.idxOf_cons, hbeq]
    rfl

/-- **The strings of a list override the settings in their order**, as many as there are. -/
theorem readElements_of_separated {ts : List Text} (h : Separated IsString ts t)
    (hopens : Opens isFirst lead) {settings : List Setting} (hnodup : settings.Nodup)
    (hle : ts.length ≤ settings.length) (cfg : Config) (rest : Text) :
    ∃ cfg' : Config,
      readElements cfg isFirst (lead ++ (t ++ ']' :: rest)) settings = .ok (cfg', rest) ∧
      ∀ s, cfg'.get s = ts[settings.idxOf s]?.getD (cfg.get s) := by
  induction h generalizing isFirst lead settings cfg with
  | @last value t hv =>
      cases settings with
      | nil => exact absurd hle (Nat.not_succ_le_zero 0)
      | cons s₀ more =>
          obtain ⟨hs₀, -⟩ := List.nodup_cons.mp hnodup
          obtain ⟨y, hy, hread⟩ := readElements_cons hv hopens cfg s₀ more (']' :: rest)
          refine ⟨cfg.set s₀ value, hread.trans (readElements_end hy _ false more rest), ?_⟩
          exact getD_idxOf_cons [] hs₀ (Nat.zero_le _) cfg value
  | @more value ts t t' hv _ ih =>
      cases settings with
      | nil => exact absurd hle (Nat.not_succ_le_zero ts.length)
      | cons s₀ more =>
          obtain ⟨hs₀, hmore⟩ := List.nodup_cons.mp hnodup
          have hle' : ts.length ≤ more.length := Nat.le_of_succ_le_succ hle
          obtain ⟨y, hy, hread⟩ :=
            readElements_cons hv hopens cfg s₀ more (',' :: (t' ++ ']' :: rest))
          obtain ⟨cfg', hread', hget⟩ := ih (.next hy) hmore hle' (cfg.set s₀ value)
          rw [List.append_assoc, List.singleton_append] at hread'
          refine ⟨cfg', ?_, fun s => (hget s).trans (getD_idxOf_cons ts hs₀ hle' cfg value s)⟩
          rw [List.append_assoc, List.cons_append]
          exact hread.trans hread'

/-! ## Whole texts -/

theorem readSettings_object (hu : IsBlanks u) (t : Text) :
    readSettings (u ++ opener .object :: t) = readMembers {} [] true t := by
  rw [readSettings, skipBlanks_append_cons hu (isBlank_opener .object)]
  rfl

theorem readSettings_list (hu : IsBlanks u) (t : Text) :
    readSettings (u ++ opener .list :: t) = readElements {} true t Setting.all := by
  rw [readSettings, skipBlanks_append_cons hu (isBlank_opener .list)]
  rfl

theorem read_of_readSettings (h : readSettings t = .ok (cfg, x)) (hx : IsBlanks x) :
    read t = .ok cfg := by
  have hblanks : skipBlanks x = [] := by
    rw [← List.append_nil x, skipBlanks_append hx]
    rfl
  simp only [read, h, hblanks]

theorem read_of_object (h : Bracketed .object IsMember members t)
    (hgives : Gives members given) : read t = .ok (overriding given) := by
  cases h with
  | @empty u w x hu hw hx =>
      have hread := (readSettings_object hu _).trans (readMembers_end hw {} [] true x)
      have hdefault : ({} : Config) = overriding given :=
        eq_overriding fun s => by rw [hgives.eq_none_of_nil s, Option.getD_none]
      rw [← hdefault]
      exact read_of_readSettings hread hx
  | @items _ u t x hu ht hx =>
      obtain ⟨cfg, hread, hget⟩ :=
        readMembers_of_separated ht hgives .first (fun _ hs => absurd hs List.not_mem_nil) {} x
      rw [← eq_overriding hget]
      exact read_of_readSettings ((readSettings_object hu _).trans hread) hx

theorem read_of_list {ts : List Text} (h : Bracketed .list IsString ts t)
    (hle : ts.length ≤ Setting.all.length) :
    read t = .ok (overriding fun s => ts[Setting.all.idxOf s]?) := by
  cases h with
  | @empty u w x hu hw hx =>
      have hread := (readSettings_list hu _).trans (readElements_end hw {} true Setting.all x)
      exact read_of_readSettings hread hx
  | @items _ u t x hu ht hx =>
      obtain ⟨cfg, hread, hget⟩ :=
        readElements_of_separated ht .first (by decide : Setting.all.Nodup) hle {} x
      rw [← eq_overriding hget]
      exact read_of_readSettings ((readSettings_list hu _).trans hread) hx

theorem read_of_repeated (h : Bracketed .object IsMember members t)
    (hcount : 2 ≤ (members.map Member.key).count s.key) : ∃ f, read t = .error f := by
  cases h with
  | empty =>
      rw [List.map_nil, List.count_nil] at hcount
      exact absurd hcount (by decide)
  | @items _ u t x hu ht hx =>
      have hcount' : 2 ≤ (members.map Member.key).count s.key +
          if s ∈ ([] : List Setting) then 1 else 0 := hcount
      obtain ⟨f, hf⟩ := readMembers_of_repeated ht .first hcount' {} x
      have hread : readSettings (u ++ opener .object :: (t ++ closer .object :: x)) = .error f :=
        (readSettings_object hu _).trans hf
      exact ⟨f, by simp only [read, hread]⟩

/-- **Any choice of settings can be put into words.** -/
theorem exists_read_eq_overriding (given : Setting → Option Text) :
    ∃ t, read t = .ok (overriding given) := by
  obtain ⟨members, hgives, hvalues⟩ := Gives.exists_members given
  obtain ⟨t, ht⟩ := exists_bracketed (fun m hm => exists_isMember (hvalues m hm)) .object
  exact ⟨t, read_of_object ht hgives⟩

end Config

/-! ## Files -/

namespace Program

open Config CommandLine

/-- **A file of settings overrides what it names**: an object by the keys, in any order and
among any others, and a list by the places.  No setting may be named twice. -/
theorem configOn_overrides {d : Disk} {inv : Invocation} {path : Path} {text : Text}
    (hpath : inv.config? = some path) (hfile : d.readFile path = .ok text.encode) :
    (∀ members given, Bracketed .object IsMember members text → Gives members given →
      configOn d inv = .ok (overriding given)) ∧
    (∀ ts : List Text, Bracketed .list IsString ts text → ts.length ≤ Setting.all.length →
      configOn d inv = .ok (overriding fun s => ts[Setting.all.idxOf s]?)) ∧
    ∀ (members : List Member) (s : Setting), Bracketed .object IsMember members text →
      2 ≤ (members.map Member.key).count s.key →
      ∃ fault, configOn d inv = .error (.malformed path fault text) := by
  have hload : configOn d inv = ofBytes path text.encode := by
    simp only [configOn, hpath, hfile]
  rw [hload]
  refine ⟨fun members given ht hgives => ?_, fun ts ht hle => ?_, fun members s ht hcount => ?_⟩
  · simp only [ofBytes, Text.decode?_encode, read_of_object ht hgives]
  · simp only [ofBytes, Text.decode?_encode, read_of_list ht hle]
  · obtain ⟨fault, hfault⟩ := read_of_repeated ht hcount
    exact ⟨fault, by simp only [ofBytes, Text.decode?_encode, hfault]⟩

theorem configOn_overrides_extension :
    let path : Path := ⟨"a.json".toList⟩
    let disk (text : Text) : Disk := ⟨[(["a.json".toList], .file text.encode)], []⟩
    let inv : Invocation := { input := ⟨"in.md".toList⟩, config? := some path }
    let object : Text :=
      "\x7b\"other\": [1], \"\\u0065xtension\": \"txt\",\n \"other\": null\x7d".toList
    let list : Text := "[ \"Start\", \"Act\" ]".toList
    let repeated : Text := "\x7b\"extension\":\"txt\",\"extension\":null\x7d".toList
    configOn (disk object) inv = .ok { extension := "txt".toList } ∧
      configOn (disk list) inv =
        .ok { entryPoint := "Start".toList, sceneToken := "Act".toList } ∧
      ∃ fault, configOn (disk repeated) inv = .error (.malformed path fault repeated) := by
  intro path disk inv object list repeated
  have hfile (text : Text) : (disk text).readFile path = .ok text.encode := rfl
  have hblank : IsBlanks [' '] := List.all_eq_true.mp rfl
  have hspells : Spells "txt".toList "txt".toList := spells_self rfl
  have htxt : Quoted "txt".toList "\"txt\"".toList := .string hspells
  refine ⟨?_, ?_, ?_⟩
  · have hother : Spells "other".toList "other".toList := spells_self rfl
    have hextension : Spells "\\u0065xtension".toList "extension".toList :=
      .cons (.code (.digits (Or.inl rfl) (Or.inl rfl) (Or.inl rfl) (Or.inl rfl)))
        (spells_self rfl)
    have hbreak : IsBlanks ['\n', ' '] := List.all_eq_true.mp rfl
    have hinteger : IsInteger ['1'] := .digits rfl (by decide) fun _ => nofun
    have hone : IsMagnitude ['1'] := .parts hinteger .none .none
    have hlist : WellFormed .value "[1]".toList :=
      .items (b := .list) (.last .list isBlanks_nil (.natural hone) isBlanks_nil)
    have hfirst : IsMember ⟨"other".toList, "[1]".toList⟩ _ :=
      .parts isBlanks_nil hother isBlanks_nil hblank hlist isBlanks_nil
    have hsecond : IsMember ⟨"extension".toList, "\"txt\"".toList⟩ _ :=
      .parts hblank hextension isBlanks_nil hblank htxt.wellFormed isBlanks_nil
    have hthird : IsMember ⟨"other".toList, "null".toList⟩ _ :=
      .parts hbreak hother isBlanks_nil hblank .null isBlanks_nil
    have hobject : Bracketed .object IsMember [_, _, _] object :=
      .items isBlanks_nil (.more hfirst (.more hsecond (.last hthird))) isBlanks_nil
    let given (s : Setting) : Option Text := if s = .extension then some "txt".toList else none
    have hgives : Gives [⟨"other".toList, "[1]".toList⟩, ⟨"extension".toList, "\"txt\"".toList⟩,
        ⟨"other".toList, "null".toList⟩] given := by
      refine ⟨fun s => by cases s <;> decide, ?_, fun s => by cases s <;> decide⟩
      intro m hm s hkey
      simp only [List.mem_cons, List.not_mem_nil, or_false] at hm
      rcases hm with rfl | rfl | rfl
      · cases s <;> cases hkey
      · cases Setting.key_inj (s := .extension) hkey
        exact ⟨_, rfl, htxt⟩
      · cases s <;> cases hkey
    exact (configOn_overrides rfl (hfile object)).1 _ given hobject hgives
  · have hstart : IsString "Start".toList _ :=
      .blanks hblank (.string (spells_self rfl)) isBlanks_nil
    have hact : IsString "Act".toList _ :=
      .blanks hblank (.string (spells_self rfl)) hblank
    have hlist : Bracketed .list IsString [_, _] list :=
      .items isBlanks_nil (.more hstart (.last hact)) isBlanks_nil
    exact (configOn_overrides rfl (hfile list)).2.1 _ hlist (by decide)
  · have hextension : Spells "extension".toList "extension".toList :=
      spells_self rfl
    have hfirst : IsMember ⟨"extension".toList, "\"txt\"".toList⟩ _ :=
      .parts isBlanks_nil hextension isBlanks_nil isBlanks_nil htxt.wellFormed isBlanks_nil
    have hsecond : IsMember ⟨"extension".toList, "null".toList⟩ _ :=
      .parts isBlanks_nil hextension isBlanks_nil isBlanks_nil .null isBlanks_nil
    have hrepeated : Bracketed .object IsMember [_, _] repeated :=
      .items isBlanks_nil (.more hfirst (.last hsecond)) isBlanks_nil
    exact (configOn_overrides rfl (hfile repeated)).2.2 _ .extension hrepeated (by decide)

end Program

end StoryScript
