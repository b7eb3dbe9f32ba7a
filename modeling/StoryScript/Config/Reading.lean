/-
# `StoryScript.Config.Reading` — settings from a JSON text

Settings are given by an object with a key for each that is to differ from its
default; other keys are allowed and mean nothing.  An array of texts gives the
settings in their order, as many as it has.  Nothing but blanks may follow.

The text is read from left to right, and the first fault met is the one that is
told: a key that comes twice or a value of the wrong type counts before a syntax
fault further on.
-/
import StoryScript.Config
import StoryScript.Json.Skip
import StoryScript.Source

namespace StoryScript

/-- The settings by name, in the order in which an array gives them. -/
inductive Setting where
  | entryPoint
  | sceneToken
  | scenesDir
  | extension
  | transitionFile
  | dialogFile
deriving DecidableEq, Repr

namespace Setting

/-- All settings in order. -/
def all : List Setting :=
  [.entryPoint, .sceneToken, .scenesDir, .extension, .transitionFile, .dialogFile]

theorem mem_all (s : Setting) : s ∈ all := by cases s <;> decide

/-- The key of a setting. -/
def key : Setting → Text
  | .entryPoint => "entry_point".toList
  | .sceneToken => "scene_rename_token".toList
  | .scenesDir => "scenes_dir".toList
  | .extension => "extension".toList
  | .transitionFile => "transition_file".toList
  | .dialogFile => "dialog_file".toList

/-- What a value of the setting must be. -/
def wanted : Setting → Json.Wanted
  | .entryPoint | .sceneToken | .extension => .string
  | .scenesDir | .transitionFile | .dialogFile => .path

/-- The setting with a given key. -/
def ofKey? (t : Text) : Option Setting := all.find? (·.key == t)

theorem ofKey?_key (s : Setting) : ofKey? s.key = some s := by cases s <;> decide

end Setting

namespace Config

/-- The text of a setting. -/
def get (cfg : Config) : Setting → Text
  | .entryPoint => cfg.entryPoint
  | .sceneToken => cfg.sceneToken
  | .scenesDir => cfg.scenesDir.text
  | .extension => cfg.extension
  | .transitionFile => cfg.transitionFile.text
  | .dialogFile => cfg.dialogFile.text

/-- The settings with one of them changed. -/
def set (cfg : Config) (s : Setting) (t : Text) : Config :=
  match s with
  | .entryPoint => { cfg with entryPoint := t }
  | .sceneToken => { cfg with sceneToken := t }
  | .scenesDir => { cfg with scenesDir := ⟨t⟩ }
  | .extension => { cfg with extension := t }
  | .transitionFile => { cfg with transitionFile := ⟨t⟩ }
  | .dialogFile => { cfg with dialogFile := ⟨t⟩ }

theorem get_set (cfg : Config) (s s' : Setting) (t : Text) :
    (cfg.set s t).get s' = if s' = s then t else cfg.get s' := by
  cases s <;> cases s' <;> rfl

open Json

/-- The fault of a value that is not what was wanted, unless it is not even
well formed.  A list or an object is refused before it is read. -/
def misfit (wanted : Wanted) (t : Text) : Fault :=
  let refuse (found : Found) (read : Except Fault Text) : Fault :=
    match read with
    | .error f => f
    | .ok rest => ⟨.wrongType found wanted, rest, 0⟩
  let refuseNumber (read : Except Fault (Number × Text)) : Fault :=
    match read with
    | .error f => f
    | .ok (n, rest) => ⟨.wrongType (.number n) wanted, rest, 0⟩
  match t with
  | 'n' :: rest => refuse .null (readIdent ['u', 'l', 'l'] rest)
  | 't' :: rest => refuse (.boolean true) (readIdent ['r', 'u', 'e'] rest)
  | 'f' :: rest => refuse (.boolean false) (readIdent ['a', 'l', 's', 'e'] rest)
  | '"' :: rest =>
    match readText rest with
    | .error f => f
    | .ok (s, rest) => ⟨.wrongType (.string s) wanted, rest, 0⟩
  | '-' :: rest => refuseNumber (readNumber true rest)
  | '[' :: _ => ⟨.wrongType .list wanted, t, 0⟩
  | '\x7b' :: _ => ⟨.wrongType .object wanted, t, 0⟩
  | _ => if startsWithDigit t then refuseNumber (readNumber false t) else ⟨.expectedValue, t, 1⟩

/-- Reads the value of a setting. -/
def readValue (wanted : Wanted) (t : Text) : Except Fault (Text × Text) :=
  match skipBlanks t with
  | [] => .error ⟨.endInValue, [], 0⟩
  | '"' :: rest => readText rest
  | t => .error (misfit wanted t)

theorem length_readValue {wanted : Wanted} {t s rest : Text}
    (h : readValue wanted t = .ok (s, rest)) : rest.length < t.length := by
  have hle := length_skipBlanks_le t
  unfold readValue at h
  split at h
  · cases h
  · rename_i hb
    rw [hb] at hle
    have := length_readText h
    simp only [List.length_cons] at hle
    omega
  · cases h

/-- Looks for the next key of an object: what comes after its opening quote, or
nothing if the object ends here. -/
def openKey (isFirst : Bool) (t : Text) : Except Fault (Option Text) :=
  match skipBlanks t with
  | [] => .error ⟨.endInObject, [], 0⟩
  | '\x7d' :: _ => .ok none
  | c :: rest =>
    if isFirst then
      if c = '"' then .ok (some rest) else .error ⟨.keyMustBeString, c :: rest, 1⟩
    else if c = ',' then
      match skipBlanks rest with
      | '"' :: rest => .ok (some rest)
      | '\x7d' :: rest => .error ⟨.trailingComma, '\x7d' :: rest, 1⟩
      | [] => .error ⟨.endInValue, [], 0⟩
      | t => .error ⟨.keyMustBeString, t, 1⟩
    else .error ⟨.expectedCommaOrObjectEnd, c :: rest, 1⟩

theorem length_openKey {isFirst : Bool} {t rest : Text}
    (h : openKey isFirst t = .ok (some rest)) : rest.length < t.length := by
  have hle := length_skipBlanks_le t
  unfold openKey at h
  split at h
  · cases h
  · cases h
  · rename_i c rest' _ hb
    rw [hb] at hle
    simp only [List.length_cons] at hle
    have hle' := length_skipBlanks_le rest'
    split at h
    · split at h <;> cases h
      omega
    · split at h
      · split at h
        · rename_i hb'
          cases h
          rw [hb'] at hle'
          simp only [List.length_cons] at hle'
          omega
        all_goals cases h
      · cases h

/-- Reads the members of an object, in which the settings in `seen` have been
given, and its closing brace. -/
def readMembers (cfg : Config) (seen : List Setting) (isFirst : Bool) (t : Text) :
    Except Fault (Config × Text) :=
  match hkey : openKey isFirst t with
  | .error f => .error f
  | .ok none => .ok (cfg, (skipBlanks t).tail)
  | .ok (some rest) =>
    have := length_openKey hkey
    match htext : readText rest with
    | .error f => .error f
    | .ok (key, rest) =>
      have := length_readText htext
      match Setting.ofKey? key with
      | some s =>
        if s ∈ seen then
          let unread := skipBlanks rest
          .error ⟨.duplicateKey key, if unread.head? = some '\x7d' then unread.tail else unread, 0⟩
        else
          match hcolon : readColon rest with
          | .error f => .error f
          | .ok rest =>
            have := length_readColon hcolon
            match hvalue : readValue s.wanted rest with
            | .error f => .error f
            | .ok (value, rest) =>
              have := length_readValue hvalue
              readMembers (cfg.set s value) (s :: seen) false rest
      | none =>
        match hcolon : readColon rest with
        | .error f => .error f
        | .ok rest =>
          have := length_readColon hcolon
          match hvalue : skipValue rest with
          | .error f => .error f
          | .ok rest =>
            have := length_skipValue hvalue
            readMembers cfg seen false rest
termination_by t.length
decreasing_by all_goals omega

/-- Looks for the next element of a list: what it starts with, or nothing if the
list ends here. -/
def openElement (isFirst : Bool) (t : Text) : Except Fault (Option Text) :=
  match skipBlanks t with
  | [] => .error ⟨.endInList, [], 0⟩
  | ']' :: _ => .ok none
  | c :: rest =>
    if isFirst then .ok (some (c :: rest))
    else if c = ',' then
      match skipBlanks rest with
      | ']' :: rest => .error ⟨.trailingComma, ']' :: rest, 1⟩
      | [] => .error ⟨.endInValue, [], 0⟩
      | t => .ok (some t)
    else .error ⟨.expectedCommaOrListEnd, c :: rest, 1⟩

/-- Reads the closing bracket of a list that has given every setting. -/
def closeList (t : Text) : Except Fault Text :=
  match skipBlanks t with
  | [] => .error ⟨.endInList, [], 0⟩
  | ']' :: rest => .ok rest
  | ',' :: rest =>
    match skipBlanks rest with
    | ']' :: rest => .error ⟨.trailingComma, ']' :: rest, 1⟩
    | t => .error ⟨.trailingCharacters, t, 1⟩
  | t => .error ⟨.trailingCharacters, t, 1⟩

/-- Reads the elements of a list, one for each of the settings that are left,
and its closing bracket. -/
def readElements (cfg : Config) (isFirst : Bool) (t : Text) :
    List Setting → Except Fault (Config × Text)
  | [] =>
    match closeList t with
    | .error f => .error f
    | .ok rest => .ok (cfg, rest)
  | s :: more =>
    match openElement isFirst t with
    | .error f => .error f
    | .ok none => .ok (cfg, (skipBlanks t).tail)
    | .ok (some rest) =>
      match readValue s.wanted rest with
      | .error f => .error f
      | .ok (value, rest) => readElements (cfg.set s value) false rest more

/-- Reads the object or the list at the start of a text. -/
def readSettings (t : Text) : Except Fault (Config × Text) :=
  match skipBlanks t with
  | [] => .error ⟨.endInValue, [], 0⟩
  | '\x7b' :: rest => readMembers {} [] true rest
  | '[' :: rest => readElements {} true rest Setting.all
  | t => .error (misfit .settings t)

/-- Reads a JSON text that holds settings and nothing else. -/
def read (t : Text) : Except Fault Config :=
  match readSettings t with
  | .error f => .error f
  | .ok (cfg, rest) =>
    match skipBlanks rest with
    | [] => .ok cfg
    | rest => .error ⟨.trailingCharacters, rest, 1⟩

/-! ## Settings from a file -/

/-- Why a file gives no settings. -/
inductive LoadFailure where
  | unreadable (failure : IoFailure)
  | malformed (path : Path) (fault : Fault) (whole : Text)
deriving DecidableEq, Repr

/-- What happened and why, in one line. -/
def LoadFailure.chain : LoadFailure → Text
  | .unreadable f =>
    "Failed to read config file: ".toList ++ f.path.text ++ ": ".toList ++ f.cause.message
  | .malformed path fault whole =>
    "Failed to parse config file: ".toList ++ path.text ++ ": ".toList ++ fault.message whole

/-- The settings in a file with the given contents. -/
def ofBytes (path : Path) (bytes : Bytes) : Except LoadFailure Config :=
  match Text.decode? bytes with
  | none => .error (.unreadable ⟨path, .invalidUtf8⟩)
  | some whole =>
    match read whole with
    | .error fault => .error (.malformed path fault whole)
    | .ok cfg => .ok cfg

end Config

end StoryScript
