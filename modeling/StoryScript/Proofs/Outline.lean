/-
# `StoryScript.Proofs.Outline` — what a script consists of, read as a whole

A compilation goes through a script line by line and never looks back.  The same
script has an outline that is told without any going through:

    (front matter)
    # Script                 the entry: the first title the settings name
    (lines of no section)    \
    ## Scene 1               |  the body: what follows the entry,
    ...                      |  up to the next title or the end
    ## Scene 2               |
    ...                      /
    # Appendix
    (back matter)

A section is a heading of the body with the lines up to the next heading.  It is
live if its heading makes a name; the others have no file and no speaker.  What a
compilation writes and reports is stated in these terms in
`StoryScript.Proofs.Compilation`.

The lemmas say how the sections grow with the body, a line at a time, since that is
how a compilation sees it.
-/
import Mathlib.Data.List.ModifyLast
import Mathlib.Data.List.TakeWhile
import StoryScript.Compilation
import StoryScript.Proofs.Text.Lines

namespace StoryScript

/-- What a line adds to the section it stands in. -/
def Line.statement? : Line → Option Statement
  | .statement s => some s
  | _ => none

theorem Line.statement?_eq_some_iff {line : Line} {s : Statement} :
    line.statement? = some s ↔ line = .statement s := by
  cases line with
  | statement _ => exact Option.some_inj.trans ⟨congrArg Line.statement, Line.statement.inj⟩
  | title _ => exact ⟨nofun, nofun⟩
  | scene _ => exact ⟨nofun, nofun⟩
  | blank => exact ⟨nofun, nofun⟩

/-- The heading that a section starts with. -/
def Line.heading? : Line → Option Text
  | .scene heading => some heading
  | _ => none

/-- Who is heard in a statement. -/
def Statement.speaker? : Statement → Option Text
  | .say d => some d.speaker
  | _ => none

theorem Statement.speaker?_eq_some_iff {s : Statement} {speaker : Text} :
    s.speaker? = some speaker ↔ ∃ d, s = .say d ∧ d.speaker = speaker := by
  cases s with
  | say d =>
      constructor
      · intro h
        exact ⟨d, rfl, Option.some.inj h⟩
      · rintro ⟨_, hsay, rfl⟩
        cases hsay
        rfl
  | pause => exact ⟨nofun, nofun⟩
  | comment _ => exact ⟨nofun, nofun⟩

/-- The file that the scene would be written to, were it closed now. -/
def Draft.file (cfg : Config) (d : Draft) : Path × Text := (cfg.scenePath d.name, d.code)

/-- A heading of the second level, with the lines up to the next one. -/
structure Section where
  heading : Text
  lines : List Line
deriving DecidableEq, Repr

namespace Section

/-- The statements that stand in the section. -/
def statements (sec : Section) : List Statement := sec.lines.filterMap Line.statement?

/-- Who is heard in the section, as often as it happens. -/
def speakers (sec : Section) : List Text := sec.statements.filterMap Statement.speaker?

/-- The name that the heading makes. -/
def name (cfg : Config) (sec : Section) : Text := Scene.name cfg.sceneToken sec.heading

/-- Whether the heading makes a name at all. -/
def isLive (cfg : Config) (sec : Section) : Bool := sec.name cfg != []

/-- Where the class of the section goes. -/
def path (cfg : Config) (sec : Section) : Path := cfg.scenePath (sec.name cfg)

/-- The class of the section: the statements' code one after the other, between what
every class starts with and what it ends with. -/
def code (cfg : Config) (sec : Section) : Text :=
  Code.opening (sec.name cfg) ++ sec.statements.flatMap Statement.code ++ Code.closing

/-- The file that the section is written to. -/
def file (cfg : Config) (sec : Section) : Path × Text := (sec.path cfg, sec.code cfg)

/-- What a compilation holds of the section while it is open. -/
def draft (cfg : Config) (sec : Section) : Draft := ⟨sec.name cfg, sec.statements⟩

/-- The section with one more line. -/
def add (sec : Section) (line : Line) : Section := { sec with lines := sec.lines ++ [line] }

theorem statements_add (sec : Section) (line : Line) :
    (sec.add line).statements = sec.statements ++ line.statement?.toList := by
  rw [statements, add, List.filterMap_append]
  cases h : line.statement? <;> simp [statements, h]

theorem speakers_add (sec : Section) (line : Line) :
    (sec.add line).speakers =
      sec.speakers ++ (line.statement?.bind Statement.speaker?).toList := by
  rw [speakers, statements_add, List.filterMap_append]
  cases line.statement? with
  | none => rfl
  | some s => cases h : s.speaker? <;> simp [speakers, h]

end Section

namespace Script

/-! ## The outline -/

/-- The lines of a script as they are read. -/
def texts (t : Text) : List Text :=
  match Text.lines t with
  | first :: rest => Source.unmarkedLine first :: rest
  | [] => []

/-- What the lines of a script mean. -/
def lines (t : Text) : List Line := (texts t).map Line.ofText

/-- Whether the line is a title that starts the script. -/
def isEntry (cfg : Config) : Line → Bool
  | .title heading => cfg.isEntryPoint heading
  | _ => false

/-- Whether the line is a title. -/
def isTitle : Line → Bool
  | .title _ => true
  | _ => false

/-- Whether the line is the heading of a section. -/
def isHeading (line : Line) : Bool := line.heading?.isSome

/-- What follows the entry, up to the next title; nothing if there is no entry. -/
def body? (cfg : Config) (script : List Line) : Option (List Line) :=
  match script.dropWhile (!isEntry cfg ·) with
  | [] => none
  | _ :: rest => some (rest.takeWhile (!isTitle ·))

/-- The sections of a body. -/
def sections : List Line → List Section
  | [] => []
  | .scene heading :: rest => ⟨heading, rest.takeWhile (!isHeading ·)⟩ :: sections rest
  | _ :: rest => sections rest

/-- The sections that have a name. -/
def liveSections (cfg : Config) (body : List Line) : List Section :=
  (sections body).filter (·.isLive cfg)

/-- The names that the headings of a body make, as far as they make any. -/
def sceneNames (cfg : Config) (body : List Line) : List Text :=
  ((body.filterMap Line.heading?).map (Scene.name cfg.sceneToken)).filter (· != [])

/-- Everyone who is heard in a live section, in the order of first appearance. -/
def speakers (cfg : Config) (body : List Line) : List Text :=
  ((liveSections cfg body).flatMap Section.speakers).eraseDups

/-! ## Entry and body -/

theorem exists_title_of_isTitle {line : Line} (h : isTitle line = true) :
    ∃ heading, line = .title heading := by
  cases line with
  | title heading => exact ⟨heading, rfl⟩
  | scene _ => cases h
  | statement _ => cases h
  | blank => cases h

theorem isTitle_of_isEntry {cfg : Config} {line : Line} (h : isEntry cfg line = true) :
    isTitle line = true := by
  cases line with
  | title _ => rfl
  | scene _ => cases h
  | statement _ => cases h
  | blank => cases h

theorem body?_eq_none_iff {cfg : Config} {script : List Line} :
    body? cfg script = none ↔ ∀ line ∈ script, isEntry cfg line = false := by
  unfold body?
  split
  · rename_i h
    simpa using List.dropWhile_eq_nil_iff.mp h
  · rename_i entry rest h
    refine ⟨fun h => (Option.some_ne_none _ h).elim, fun hall => ?_⟩
    have hnil : script.dropWhile (!isEntry cfg ·) = [] :=
      List.dropWhile_eq_nil_iff.mpr (by simpa using hall)
    rw [hnil] at h
    cases h

/-- A script with an entry is its front matter, the entry, the body, and what comes
after: nothing, or a title and the back matter. -/
theorem exists_split_of_body? {cfg : Config} {script body : List Line}
    (h : body? cfg script = some body) :
    ∃ front heading back, script = front ++ .title heading :: (body ++ back) ∧
      (∀ line ∈ front, isEntry cfg line = false) ∧ cfg.isEntryPoint heading = true ∧
      (∀ line ∈ body, isTitle line = false) ∧ ∀ line ∈ back.head?, isTitle line = true := by
  unfold body? at h
  split at h
  · cases h
  · rename_i entry rest hdrop
    cases h
    have hentry : isEntry cfg entry = true := by
      have hhead := List.head?_dropWhile_not (!isEntry cfg ·) script
      rw [hdrop] at hhead
      simpa using hhead
    obtain ⟨heading, rfl⟩ := exists_title_of_isTitle (isTitle_of_isEntry hentry)
    refine ⟨script.takeWhile (!isEntry cfg ·), heading, rest.dropWhile (!isTitle ·), ?_, ?_,
      hentry, ?_, ?_⟩
    · rw [List.takeWhile_append_dropWhile, ← hdrop, List.takeWhile_append_dropWhile]
    · intro line hline
      simpa using List.mem_takeWhile_imp hline
    · intro line hline
      simpa using List.mem_takeWhile_imp hline
    · intro line hline
      have hhead := List.head?_dropWhile_not (!isTitle ·) rest
      rw [Option.mem_def.mp hline] at hhead
      simpa using hhead

theorem not_mem_of_mem_texts {t text : Text} (h : text ∈ texts t) : '\n' ∉ text := by
  unfold texts at h
  split at h
  · rename_i first rest hlines
    have hmem (line : Text) (hline : line ∈ first :: rest) : '\n' ∉ line :=
      Text.not_mem_of_mem_lines (t := t) (hlines ▸ hline)
    rcases List.mem_cons.mp h with rfl | h
    · exact fun hc => hmem first List.mem_cons_self ((List.dropWhile_sublist _).subset hc)
    · exact hmem text (List.mem_cons_of_mem _ h)
  · exact absurd h List.not_mem_nil

/-! ## Sections, a line at a time -/

theorem exists_scene_of_isHeading {line : Line} (h : ¬ isHeading line = false) :
    ∃ heading, line = .scene heading := by
  cases line with
  | scene heading => exact ⟨heading, rfl⟩
  | title _ => exact absurd rfl h
  | statement _ => exact absurd rfl h
  | blank => exact absurd rfl h

theorem sections_eq_nil_iff {body : List Line} :
    sections body = [] ↔ ∀ line ∈ body, isHeading line = false := by
  induction body with
  | nil => exact ⟨fun _ _ h => absurd h List.not_mem_nil, fun _ => rfl⟩
  | cons line rest ih =>
      rw [List.forall_mem_cons]
      cases line with
      | scene heading => exact ⟨fun h => absurd h (List.cons_ne_nil _ _), fun h => nomatch h.1⟩
      | title _ => exact ih.trans ⟨fun h => ⟨rfl, h⟩, fun h => h.2⟩
      | statement _ => exact ih.trans ⟨fun h => ⟨rfl, h⟩, fun h => h.2⟩
      | blank => exact ih.trans ⟨fun h => ⟨rfl, h⟩, fun h => h.2⟩

theorem lines_subset_of_mem_sections {body : List Line} {sec : Section}
    (h : sec ∈ sections body) : sec.lines ⊆ body := by
  induction body with
  | nil => exact absurd h List.not_mem_nil
  | cons line rest ih =>
      have hrest (h : sec ∈ sections rest) : sec.lines ⊆ line :: rest :=
        List.subset_cons_of_subset line (ih h)
      cases line with
      | scene heading =>
          rcases List.mem_cons.mp h with rfl | h
          · exact List.subset_cons_of_subset _ (List.takeWhile_sublist _).subset
          · exact hrest h
      | title _ => exact hrest h
      | statement _ => exact hrest h
      | blank => exact hrest h

/-- A heading cuts the sections in two: none of those before it reaches beyond. -/
theorem sections_append_heading (front : List Line) (heading : Text) (back : List Line) :
    sections (front ++ .scene heading :: back) =
      sections front ++ sections (.scene heading :: back) := by
  induction front with
  | nil => rfl
  | cons line rest ih =>
      cases line with
      | scene first =>
          have htake : (rest ++ .scene heading :: back).takeWhile (!isHeading ·) =
              rest.takeWhile (!isHeading ·) := by
            rw [List.takeWhile_append]
            split
            · rename_i h
              have hall := (List.takeWhile_prefix (!isHeading ·)).eq_of_length h
              rw [hall, List.takeWhile_cons_of_neg (by simp [isHeading, Line.heading?]),
                List.append_nil]
            · rfl
          simp only [List.cons_append, sections, htake]
          rw [ih]
          rfl
      | title _ => exact ih
      | statement _ => exact ih
      | blank => exact ih

theorem sections_snoc_heading (body : List Line) (heading : Text) :
    sections (body ++ [.scene heading]) = sections body ++ [⟨heading, []⟩] :=
  sections_append_heading body heading []

theorem sections_snoc_of_not_heading {line : Line} (h : isHeading line = false)
    (body : List Line) :
    sections (body ++ [line]) = (sections body).modifyLast (·.add line) := by
  induction body with
  | nil => exact sections_eq_nil_iff.mpr fun _ hx => List.mem_singleton.mp hx ▸ h
  | cons first rest ih =>
      cases first with
      | scene heading =>
          simp only [List.cons_append, sections, ih]
          by_cases hrest : sections rest = []
          · have hnone := sections_eq_nil_iff.mp hrest
            have hself : rest.takeWhile (!isHeading ·) = rest :=
              List.takeWhile_eq_self_iff.mpr (by simpa using hnone)
            have hsnoc : (rest ++ [line]).takeWhile (!isHeading ·) = rest ++ [line] := by
              refine List.takeWhile_eq_self_iff.mpr fun x hx => ?_
              rcases List.mem_append.mp hx with hx | hx
              · simpa using hnone x hx
              · rw [List.mem_singleton.mp hx, h]
                rfl
            rw [hrest, hself, hsnoc]
            rfl
          · have hlong : (rest ++ [line]).takeWhile (!isHeading ·) =
                rest.takeWhile (!isHeading ·) := by
              rw [List.takeWhile_append, if_neg]
              intro hlen
              have hall := (List.takeWhile_prefix (!isHeading ·)).eq_of_length hlen
              refine hrest (sections_eq_nil_iff.mpr fun x hx => ?_)
              rw [← hall] at hx
              simpa using List.mem_takeWhile_imp hx
            rw [hlong, ← List.singleton_append (l := sections rest),
              List.modifyLast_append_of_right_ne_nil _ _ _ hrest]
            rfl
      | title _ => exact ih
      | statement _ => exact ih
      | blank => exact ih

/-- A line that is no heading goes into the last section, if there is one. -/
theorem sections_snoc_cases {line : Line} (h : isHeading line = false) (body : List Line) :
    (sections body = [] ∧ sections (body ++ [line]) = []) ∨
      ∃ init last, sections body = init ++ [last] ∧
        sections (body ++ [line]) = init ++ [last.add line] := by
  rw [sections_snoc_of_not_heading h]
  rcases List.eq_nil_or_concat (sections body) with hnil | ⟨init, last, hlast⟩
  · rw [hnil]
    exact Or.inl ⟨rfl, rfl⟩
  · rw [List.concat_eq_append] at hlast
    rw [hlast]
    exact Or.inr ⟨init, last, rfl, List.modifyLast_concat _ _ _⟩

/-! ## Names -/

theorem map_heading_sections (body : List Line) :
    (sections body).map Section.heading = body.filterMap Line.heading? := by
  induction body with
  | nil => rfl
  | cons line rest ih =>
      cases line with
      | scene heading => exact congrArg (heading :: ·) ih
      | title _ => exact ih
      | statement _ => exact ih
      | blank => exact ih

theorem map_name_liveSections (cfg : Config) (body : List Line) :
    (liveSections cfg body).map (·.name cfg) = sceneNames cfg body := by
  rw [liveSections, sceneNames, ← map_heading_sections, List.map_map, List.filter_map]
  rfl

/-- The name that a line makes, if it is a heading that makes one. -/
def sceneName? (cfg : Config) (line : Line) : Option Text :=
  (line.heading?.map (Scene.name cfg.sceneToken)).filter (· != [])

theorem sceneName?_eq_some_iff {cfg : Config} {line : Line} {name : Text} :
    sceneName? cfg line = some name ↔
      ∃ heading, line = .scene heading ∧ Scene.name cfg.sceneToken heading = name ∧ name ≠ [] := by
  cases line with
  | scene heading =>
      simp only [sceneName?, Line.heading?, Option.map_some, Option.filter_eq_some_iff,
        Option.some.injEq, bne_iff_ne, Line.scene.injEq, exists_eq_left']
  | title _ => simp [sceneName?, Line.heading?]
  | statement _ => simp [sceneName?, Line.heading?]
  | blank => simp [sceneName?, Line.heading?]

theorem sceneNames_eq_filterMap (cfg : Config) (body : List Line) :
    sceneNames cfg body = body.filterMap (sceneName? cfg) := by
  rw [sceneNames, List.map_filterMap, List.filter_filterMap]
  rfl

theorem sceneNames_append (cfg : Config) (front back : List Line) :
    sceneNames cfg (front ++ back) = sceneNames cfg front ++ sceneNames cfg back := by
  simp only [sceneNames_eq_filterMap, List.filterMap_append]

/-- Each name comes from a heading, which parts the names of the lines before it from
those of the lines after. -/
theorem exists_scene_of_sceneNames {cfg : Config} {body : List Line} {before after : List Text}
    {name : Text} (h : sceneNames cfg body = before ++ name :: after) :
    ∃ front heading back, body = front ++ .scene heading :: back ∧
      sceneNames cfg front = before ∧ Scene.name cfg.sceneToken heading = name ∧ name ≠ [] := by
  rw [sceneNames_eq_filterMap, List.filterMap_eq_append_iff] at h
  obtain ⟨front, rest, rfl, hfront, hrest⟩ := h
  obtain ⟨skipped, line, back, rfl, hskipped, hline, -⟩ := List.filterMap_eq_cons_iff.mp hrest
  obtain ⟨heading, rfl, hname, hne⟩ := sceneName?_eq_some_iff.mp hline
  refine ⟨front ++ skipped, heading, back, by rw [List.append_assoc], ?_, hname, hne⟩
  rw [sceneNames_eq_filterMap, List.filterMap_append, hfront,
    List.filterMap_eq_nil_iff.mpr hskipped, List.append_nil]

end Script

end StoryScript
