/-
# `StoryScript.Proofs.Scene.Place` — where the scenes' files lie

A heading is free text, and the file of its scene is made from it:

    ## ../../etc/passwd      Scenes/etc_passwd.cs
    ## ..                    (nothing but separators, and so no scene)

The slashes and the dots of the heading are gone from the name, so the file is one step below
the directory of the scenes, whatever the heading says, and two names are two places.  The
only way out is a slash that the token or the extension brings along.

A script whose scenes are all named apart therefore writes each of them to a place of its
own, and a memory that takes the files has the class of a scene under its path in the end,
unless a helper has gone to the same place (`scene_files_confined`).
-/
import StoryScript.Proofs.Compilation.Whole
import StoryScript.Proofs.Memory
import StoryScript.Proofs.Path
import StoryScript.Proofs.Scene.Name

namespace StoryScript

/-! ## The file of a scene -/

namespace Scene

theorem exists_ne_dot_of_name_ne_nil {token heading : Text} (h : name token heading ≠ []) :
    ∃ c ∈ name token heading, c ≠ '.' := by
  have hplain : '.' ∉ plainName heading := not_mem_plainName (by decide) (by decide) heading
  rcases renamed_cases token (plainName heading) with hsame | ⟨_, _, _, _, _, rest, -, -, hrest⟩
  · rw [name, hsame] at h ⊢
    obtain ⟨c, more, hc⟩ := List.exists_cons_of_ne_nil h
    have hmem : c ∈ plainName heading := hc ▸ List.mem_cons_self
    exact ⟨c, hmem, fun hdot => hplain (hdot ▸ hmem)⟩
  · rw [name, hrest]
    exact ⟨'_', List.mem_append_right token List.mem_cons_self, by decide⟩

end Scene

namespace Config

/-- The file of the scene called `name`, below the directory of the scenes. -/
def sceneFile (cfg : Config) (name : Text) : Text := name ++ '.' :: cfg.extension

/-- Whether a scene can be called so: some heading makes the name. -/
def IsSceneName (cfg : Config) (name : Text) : Prop :=
  name ≠ [] ∧ ∃ heading, Scene.name cfg.sceneToken heading = name

theorem sceneFile_injective (cfg : Config) : Function.Injective cfg.sceneFile :=
  fun _ _ h => List.append_cancel_right h

variable {cfg : Config} {name other : Text}

theorem IsSceneName.sceneFile_ne_dots (h : cfg.IsSceneName name) (n : Nat) :
    cfg.sceneFile name ≠ List.replicate n '.' := by
  obtain ⟨hname, heading, rfl⟩ := h
  obtain ⟨c, hc, hne⟩ := Scene.exists_ne_dot_of_name_ne_nil hname
  intro hdots
  have hmem : c ∈ List.replicate n '.' := hdots ▸ List.mem_append_left _ hc
  exact hne (List.eq_of_mem_replicate hmem)

section

variable (htoken : '/' ∉ cfg.sceneToken) (hext : '/' ∉ cfg.extension)
include htoken hext

theorem not_mem_sceneFile (h : cfg.IsSceneName name) : '/' ∉ cfg.sceneFile name := by
  obtain ⟨-, heading, rfl⟩ := h
  have hname := Scene.not_mem_name (by decide) (by decide) htoken heading
  exact List.not_mem_append hname (List.not_mem_cons_of_ne_of_not_mem (by decide) hext)

theorem components_scenePath (h : cfg.IsSceneName name) :
    (cfg.scenePath name).components =
      cfg.scenesDir.components ++ [.entry (cfg.sceneFile name)] := by
  have hslash : '/' ∉ cfg.sceneFile name := not_mem_sceneFile htoken hext h
  rw [← Path.components_of_name hslash (h.sceneFile_ne_dots 0) (h.sceneFile_ne_dots 1)
    (h.sceneFile_ne_dots 2)]
  exact Path.components_join cfg.scenesDir (Path.start_of_not_mem hslash (h.sceneFile_ne_dots 1))

theorem eq_of_components_scenePath_eq (h : cfg.IsSceneName name) (hother : cfg.IsSceneName other)
    (hsame : (cfg.scenePath name).components = (cfg.scenePath other).components) :
    name = other := by
  rw [components_scenePath htoken hext h, components_scenePath htoken hext hother] at hsame
  have hfile := List.cons.inj (List.append_cancel_left hsame)
  exact sceneFile_injective cfg (Component.entry.inj hfile.1)

end

end Config

/-! ## The files of a compilation -/

section

variable {cfg : Config} {text : Text} {m : Memory} {body : List Line} {sec : Section}

theorem Script.isSceneName_of_mem_liveSections (h : sec ∈ Script.liveSections cfg body) :
    cfg.IsSceneName (sec.name cfg) :=
  ⟨bne_iff_ne.mp (List.mem_filter.mp h).2, sec.heading, rfl⟩

/-- Whatever is written is the file of a scene or a helper's, also by a compilation that fails. -/
theorem exists_written_of_compileText (cfg : Config) (text : Text) (m : Memory) :
    ∃ written, (compileText cfg text m).2.sink.files = m.files ++ written ∧ ∀ f ∈ written,
      (∃ name, cfg.IsSceneName name ∧ f.1 = cfg.scenePath name) ∨
        f.1 = cfg.transitionFile ∨ f.1 = cfg.dialogFile := by
  have hscene {body : List Line} {f : Path × Text}
      (hf : f ∈ (Script.liveSections cfg body).map (·.file cfg)) :
      ∃ name, cfg.IsSceneName name ∧ f.1 = cfg.scenePath name := by
    obtain ⟨sec, hsec, rfl⟩ := List.mem_map.mp hf
    exact ⟨sec.name cfg, Script.isSceneName_of_mem_liveSections hsec, rfl⟩
  rcases Script.exists_fault_or_nodup cfg (Script.lines text) with
    ⟨failure, written, hfault⟩ | ⟨body, hbody, hnames⟩
  · obtain ⟨s, herror, hfiles⟩ := exists_compileText_of_fault (m := m) hfault
    rw [herror]
    refine ⟨written, hfiles, ?_⟩
    intro f hf
    cases hfault with
    | unstarted => exact absurd hf List.not_mem_nil
    | repeated =>
        rw [List.map_take] at hf
        exact Or.inl (hscene (List.mem_of_mem_take hf))
  · obtain ⟨r, s, hok⟩ := exists_compileText_eq_ok (m := m) hbody hnames
    obtain ⟨body, -, -, hfiles⟩ := exists_files_of_compileText_eq_ok hok
    rw [hok]
    refine ⟨_, hfiles.trans (List.append_assoc _ _ _), ?_⟩
    intro f hf
    rcases List.mem_append.mp hf with hf | hf
    · exact Or.inl (hscene hf)
    · rcases List.mem_pair.mp hf with rfl | rfl
      · exact Or.inr (Or.inl rfl)
      · exact Or.inr (Or.inr rfl)

/-- Scenes that are named apart do not write over each other. -/
theorem get?_of_mem_liveSections (htoken : '/' ∉ cfg.sceneToken) (hext : '/' ∉ cfg.extension)
    (hnames : ((Script.liveSections cfg body).map (·.name cfg)).Nodup)
    {others helpers : List (Path × Text)}
    (hfiles : m.files = others ++ (Script.liveSections cfg body).map (·.file cfg) ++ helpers)
    (hsec : sec ∈ Script.liveSections cfg body)
    (hclear : ∀ f ∈ helpers, f.1.components ≠ (cfg.scenePath (sec.name cfg)).components) :
    m.get? (cfg.scenePath (sec.name cfg)) = some (sec.code cfg) := by
  have hscene (other : Section) (hother : other ∈ Script.liveSections cfg body) :
      cfg.IsSceneName (other.name cfg) := Script.isSceneName_of_mem_liveSections hother
  generalize Script.liveSections cfg body = live at *
  obtain ⟨before, after, rfl⟩ := List.append_of_mem hsec
  refine Memory.get?_eq_some_iff.mpr ⟨others ++ before.map (·.file cfg), sec.path cfg,
    after.map (·.file cfg) ++ helpers, ?_, rfl, ?_⟩
  · rw [hfiles, List.map_append, List.map_cons]
    simp only [List.append_assoc, List.cons_append]
    rfl
  · intro f hf
    rcases List.mem_append.mp hf with hf | hf
    · obtain ⟨other, hother, rfl⟩ := List.mem_map.mp hf
      rw [List.map_append, List.map_cons] at hnames
      have hafter := (List.nodup_cons.mp (List.nodup_append.mp hnames).2.1).1
      intro hsame
      have hsame : other.name cfg = sec.name cfg :=
        Config.eq_of_components_scenePath_eq htoken hext
          (hscene other (List.mem_append_right _ (List.mem_cons_of_mem _ hother)))
          (hscene sec hsec) hsame
      exact hafter (hsame ▸ List.mem_map_of_mem hother)
    · exact hclear f hf

end

/-- **Scenes stay below their directory and out of each other's way.**  If neither the token
nor the extension has a slash, the file of a scene is named after the scene, and lies in the
directory of the scenes whatever the heading is; scenes named apart lie apart.

So all that a compilation writes, be it a success or a failure, goes into that directory or is
a helper, and after a success the class of each scene is found under its path, if that is not
the place of a helper. -/
theorem scene_files_confined (cfg : Config) (htoken : '/' ∉ cfg.sceneToken)
    (hext : '/' ∉ cfg.extension) :
    (∀ heading,
      let name := Scene.name cfg.sceneToken heading
      let file := name ++ '.' :: cfg.extension
      name ≠ [] → '/' ∉ file ∧ file ≠ ['.'] ∧ file ≠ ['.', '.'] ∧
        (cfg.scenePath name).components = cfg.scenesDir.components ++ [.entry file] ∧
        ∃ dir, (cfg.scenePath name).parent? = some dir ∧
          dir.components = cfg.scenesDir.components) ∧
    (∀ first second,
      let name := Scene.name cfg.sceneToken first
      let other := Scene.name cfg.sceneToken second
      name ≠ [] → other ≠ [] → name ≠ other →
        (cfg.scenePath name).components ≠ (cfg.scenePath other).components) ∧
    ∀ (text : Text) (m : Memory),
      (∃ written, (compileText cfg text m).2.sink.files = m.files ++ written ∧ ∀ f ∈ written,
        (∃ file, f.1.components = cfg.scenesDir.components ++ [.entry file]) ∨
          f.1 = cfg.transitionFile ∨ f.1 = cfg.dialogFile) ∧
      ∀ r s, compileText cfg text m = (.ok r, s) →
        ∃ body, Script.body? cfg (Script.lines text) = some body ∧ r.scenes.Nodup ∧
          r.scenes = (Script.liveSections cfg body).map (·.name cfg) ∧
          ∀ sec ∈ Script.liveSections cfg body,
            let path := cfg.scenePath (sec.name cfg)
            path.components ≠ cfg.transitionFile.components →
              path.components ≠ cfg.dialogFile.components →
              s.sink.get? path = some (sec.code cfg) := by
  refine ⟨?_, ?_, fun text m => ⟨?_, ?_⟩⟩
  · intro heading name file hname
    have hscene : cfg.IsSceneName name := ⟨hname, heading, rfl⟩
    have hcomponents := Config.components_scenePath htoken hext hscene
    exact ⟨Config.not_mem_sceneFile htoken hext hscene, hscene.sceneFile_ne_dots 1,
      hscene.sceneFile_ne_dots 2, hcomponents, Path.exists_parent?_of_components hcomponents⟩
  · intro first second name other hname hother hne hsame
    exact hne (Config.eq_of_components_scenePath_eq htoken hext ⟨hname, first, rfl⟩
      ⟨hother, second, rfl⟩ hsame)
  · obtain ⟨written, hfiles, hwritten⟩ := exists_written_of_compileText cfg text m
    refine ⟨written, hfiles, ?_⟩
    intro f hf
    refine (hwritten f hf).imp_left ?_
    rintro ⟨name, hscene, hpath⟩
    rw [hpath]
    exact ⟨_, Config.components_scenePath htoken hext hscene⟩
  · intro r s hok
    obtain ⟨other, hother, hnames⟩ := exists_body_of_compileText_eq_ok hok
    obtain ⟨body, hbody, rfl, hfiles⟩ := exists_files_of_compileText_eq_ok hok
    rw [Option.some.inj (hother.symm.trans hbody)] at hnames
    refine ⟨body, hbody, hnames, (Script.map_name_liveSections cfg body).symm, ?_⟩
    rw [← Script.map_name_liveSections] at hnames
    intro sec hsec path htransition hdialog
    refine get?_of_mem_liveSections htoken hext hnames hfiles hsec ?_
    intro f hf
    rcases List.mem_pair.mp hf with rfl | rfl
    · exact htransition.symm
    · exact hdialog.symm

/-- A heading that asks for a file far above, and one that is nothing but dots. -/
theorem scene_files_confined_above :
    let cfg : Config := { scenesDir := ⟨"out//Scenes/".toList⟩ }
    let text := "# Script\n## ../../etc/passwd\nBob: Hi.\n## ..\n".toList
    let path : Path := ⟨"out//Scenes/etc_passwd.cs".toList⟩
    '/' ∉ cfg.sceneToken ∧ '/' ∉ cfg.extension ∧
      Scene.name cfg.sceneToken "../../etc/passwd".toList = "etc_passwd".toList ∧
      cfg.scenePath "etc_passwd".toList = path ∧
      path.components = ["out", "Scenes", "etc_passwd.cs"].map (.entry ·.toList) ∧
      ∃ r s, compileText cfg text ({} : Memory) = (.ok r, s) ∧ r.scenes = ["etc_passwd".toList] ∧
        s.sink.get? path = some (Code.opening "etc_passwd".toList ++
          Statement.code (.say ⟨"Bob".toList, "Hi.".toList⟩) ++ Code.closing) := by
  intro cfg text path
  have htoken : '/' ∉ cfg.sceneToken := by decide
  have hext : '/' ∉ cfg.extension := by decide
  have hname : Scene.name cfg.sceneToken "../../etc/passwd".toList = "etc_passwd".toList := by
    decide
  obtain ⟨hplace, -, hfiles⟩ := scene_files_confined cfg htoken hext
  obtain ⟨-, -, -, hcomponents, -⟩ := hplace "../../etc/passwd".toList (by decide)
  rw [hname] at hcomponents
  let sec : Section :=
    ⟨"../../etc/passwd".toList, [.statement (.say ⟨"Bob".toList, "Hi.".toList⟩)]⟩
  let body : List Line := .scene sec.heading :: sec.lines ++ [.scene "..".toList]
  have hbody : Script.body? cfg (Script.lines text) = some body := rfl
  have hlive : Script.liveSections cfg body = [sec] := by decide
  obtain ⟨r, s, hok⟩ := exists_compileText_eq_ok (m := {}) hbody (by decide)
  obtain ⟨other, hother, -, hscenes, hcode⟩ := (hfiles text {}).2 r s hok
  rw [Option.some.inj (hother.symm.trans hbody), hlive] at hscenes hcode
  refine ⟨htoken, hext, hname, rfl, hcomponents, r, s, hok, hscenes, ?_⟩
  exact hcode sec List.mem_cons_self (by decide) (by decide)

end StoryScript
