/-
# `StoryScript.Proofs.Disk.Frame` — all that a write touches

A write into a folder has one place to change.  Whatever becomes of it, every other file is
as it was, nothing is gone, and what is new besides are directories on the way to the target
(`IsNewDir`):

    out/               out/                         out/
      a.cs               a.cs                         a.cs
                         Scenes/                      Scenes/
                           Day.cs                       Day.cs/

    before             after writing Scenes/Day.cs  after failing: Day.cs is a directory

For a path that is made of names in a tree, only two things can go wrong.  There is a file
where a directory should be, and then the directory that was to hold the target is blamed;
or there is a directory where the file should be, and then the target is.
-/
import Mathlib.Data.List.Infix
import StoryScript.Proofs.Disk.Tree

namespace StoryScript

namespace Disk

variable {d between : Disk} {p target : Path} {place : Place} {names : List Text} {last : Text}

/-- A directory where nothing was, at the place of a proper prefix of the target. -/
def IsNewDir (d d' : Disk) (target : Path) (place : Place) : Prop :=
  d.lookup place = none ∧ d'.lookup place = some .dir ∧
    ∃ (q : Path) (rest : List Component), q.components ≠ [] ∧ rest ≠ [] ∧
      target.components = q.components ++ rest ∧ place = d.placeOf q

theorem isNewDir_makeAbove (d : Disk) (target : Path) (place : Place) :
    (d.makeAbove target).2.lookup place = d.lookup place ∨
      IsNewDir d (d.makeAbove target).2 target place := by
  cases habove : target.parent? with
  | none =>
      rw [makeAbove_of_none habove]
      exact Or.inl rfl
  | some above =>
      obtain ⟨c, hc⟩ := Path.exists_components_eq_of_parent? habove
      have hmade := MadeAbove.makeDirs d (List.prefix_refl above.components)
      rw [makeAbove_of_some habove]
      refine (hmade.lookup place).imp_right ?_
      rintro ⟨hnone, hdir, q, hne, ⟨rest, hrest⟩, hplace⟩
      refine ⟨hnone, hdir, q, rest ++ [c], hne, List.concat_ne_nil _ _, ?_, hplace⟩
      rw [hc, ← hrest, List.append_assoc]

theorem IsTree.makeAbove (h : d.IsTree) (target : Path) : (d.makeAbove target).2.IsTree := by
  cases habove : target.parent? with
  | none =>
      rw [makeAbove_of_none habove]
      exact h
  | some above =>
      rw [makeAbove_of_some habove]
      exact h.makeDirs above

theorem IsTree.put_file (h : d.IsTree) (htakes : d.Takes target) (bytes : Bytes) :
    (d.put (d.placeOf target) (.file bytes)).IsTree := by
  obtain ⟨place, last, hholder, hdots, -, -, hfree⟩ := htakes
  obtain ⟨-, -, -, hdir⟩ := holder_eq_ok_iff.mp hholder
  rw [placeOf_of_holder hholder hdots]
  exact h.put hdir hfree

theorem IsNewDir.ne_placeOf {d' : Disk} (h : IsNewDir d d' target place)
    (hup : .up ∉ target.components) : place ≠ d.placeOf target := by
  obtain ⟨-, -, q, rest, hne, hrest, hcomponents, rfl⟩ := h
  obtain ⟨more, rfl, hplace⟩ := exists_placeOf_eq_append (d := d) hup hne hcomponents
  rw [hplace, Ne, List.self_eq_append_right]
  rintro rfl
  exact hrest rfl

/-! ## The courses that a write takes -/

theorem parent?_of_makeAbove {failure : IoFailure}
    (h : (d.makeAbove target).1 = .error failure) : target.parent? = some failure.path := by
  cases habove : target.parent? with
  | none =>
      rw [makeAbove_of_none habove] at h
      cases h
  | some above =>
      rw [makeAbove_of_some habove] at h
      cases hdirs : (d.makeDirs above).1 with
      | error cause =>
          rw [hdirs] at h
          cases h
          rfl
      | ok _ =>
          rw [hdirs] at h
          cases h

/-- A write fails for the directory above its target, or it makes that and then puts the
file, or fails for the target. -/
theorem Folder.write_courses (f : Folder) (path : Path) (code : Text) :
    let target := f.root.join path
    let between := (f.disk.makeAbove target).2
    (∃ failure, (f.disk.makeAbove target).1 = .error failure ∧
        Sink.write f path code = (.error failure, ⟨f.root, between⟩)) ∨
      ((f.disk.makeAbove target).1 = .ok () ∧ between.Takes target ∧ Sink.write f path code =
        (.ok (), ⟨f.root, between.put (between.placeOf target) (.file code.encode)⟩)) ∨
      ((f.disk.makeAbove target).1 = .ok () ∧ ¬ between.Takes target ∧
        ∃ cause, Sink.write f path code = (.error ⟨target, cause⟩, ⟨f.root, between⟩)) := by
  dsimp only
  have hwrite : Sink.write f path code = Folder.write f path code := rfl
  rw [hwrite, Folder.write]
  generalize f.disk.makeAbove (f.root.join path) = above
  obtain ⟨failure | _, between⟩ := above
  · exact Or.inl ⟨failure, rfl, rfl⟩
  · refine Or.inr ?_
    cases hfile : between.writeFile (f.root.join path) code.encode with
    | ok disk =>
        obtain ⟨htakes, rfl⟩ := writeFile_eq_ok_iff.mp hfile
        exact Or.inl ⟨rfl, htakes, by simp only [hfile]⟩
    | error cause =>
        refine Or.inr ⟨rfl, fun htakes => ?_, cause, by simp only [hfile]⟩
        rw [writeFile_eq_ok_iff.mpr ⟨htakes, rfl⟩] at hfile
        cases hfile

/-! ## Paths that are made of names -/

section

variable (htree : d.IsTree) (h : GoesBy target (names ++ [last]))
include htree h

/-- The directory that is to hold the target can be made if no file is on the way to it. -/
theorem makeAbove_eq_ok_iff :
    (d.makeAbove target).1 = .ok () ↔ d.IsClear (d.base target ++ names) := by
  obtain ⟨above, habove, hplace, hgoes⟩ := h.parent
  have hdirs : (d.makeAbove target).1 = .ok () ↔ (d.makeDirs above).1 = .ok () := by
    rw [makeAbove_of_some habove]
    cases (d.makeDirs above).1 with
    | error cause => exact ⟨nofun, nofun⟩
    | ok _ => exact ⟨fun _ => rfl, fun _ => rfl⟩
  rw [hdirs, ← hplace]
  rcases hgoes with hnil | hgoes
  · exact ⟨isClear_of_makeDirs htree, fun _ => by rw [makeDirs, if_pos (Or.inl hnil)]⟩
  · exact makeDirs_eq_ok_iff htree hgoes

theorem lookup_makeAbove (hok : (d.makeAbove target).1 = .ok ()) :
    (d.makeAbove target).2.lookup (d.base target ++ names) = some .dir := by
  obtain ⟨above, habove, hplace, -⟩ := h.parent
  have hdir := (htree.makeAbove target).lookup_placeOf (ready_of_makeAbove hok above habove)
  rwa [placeOf_congr (MadeAbove.makeAbove target d).workDir, hplace] at hdir

/-- In a directory a file can be put, unless there is a directory of its name. -/
theorem takes_iff (hwants : wantsDirectory target = false)
    (habove : d.lookup (d.base target ++ names) = some .dir) :
    d.Takes target ↔ d.lookup (d.placeOf target) ≠ some .dir := by
  refine ⟨Takes.lookup_ne_dir, fun hfree => ?_⟩
  obtain ⟨hdots, hshort⟩ := h.isName last List.mem_concat_self
  have hholder := holder_of_isClear htree h (htree.isClear habove)
  rw [if_pos habove] at hholder
  rw [placeOf_of_holder hholder hdots] at hfree
  exact ⟨_, last, hholder, hdots, hwants, hshort, hfree⟩

end

theorem isClear_iff (d : Disk) (place : Place) (last : Text) :
    d.IsClear place ↔ ∀ above, above <+: place ++ [last] → above ≠ place ++ [last] →
      ∀ bytes, d.lookup above ≠ some (.file bytes) := by
  refine ⟨fun h above habove hne => h above ?_, fun h above habove => h above ?_ ?_⟩
  · exact (List.prefix_concat_iff.mp habove).resolve_left hne
  · exact habove.trans (List.prefix_append _ _)
  · rintro rfl
    have hlength := habove.length_le
    rw [List.length_append, List.length_singleton] at hlength
    omega

theorem text_join (root path : Path) : (root.join path).text = path.text ∨
    ∃ front, (root.join path).text = front ++ '/' :: path.text := by
  unfold Path.join
  split
  · exact Or.inl rfl
  · split
    · rename_i hslash
      obtain ⟨front, hfront⟩ := List.getLast?_eq_some_iff.mp hslash
      exact Or.inr ⟨front, by rw [hfront, List.append_assoc, List.singleton_append]⟩
    · exact Or.inr ⟨root.text, rfl⟩

theorem wantsDirectory_join (root : Path) {path : Path} (hne : path.text ≠ []) :
    wantsDirectory (root.join path) = wantsDirectory path := by
  rw [wantsDirectory, wantsDirectory]
  rcases text_join root path with htext | ⟨front, htext⟩
  · rw [htext]
  · rw [htext, List.getLast?_append, List.getLast?_cons_of_ne_nil hne,
      List.getLast?_eq_some_getLast hne, Option.some_or]

theorem exists_goesBy_join {root path : Path} (hroot : HasNames root) (hpath : HasNames path)
    (hstep : ∃ step ∈ Path.segments path.text, step ≠ [])
    (hshort : Text.utf8Length (root.join path).text ≤ maxPath) :
    ∃ names last, GoesBy (root.join path) (names ++ [last]) := by
  obtain ⟨step, hstep, hne⟩ := hstep
  have hmem : step ∈ Path.segments (root.join path).text := by
    rcases text_join root path with htext | ⟨front, htext⟩
    · rwa [htext]
    · rw [htext, Path.segments, Text.splitAt_append_sep]
      exact List.mem_append_right _ hstep
  have htext : (root.join path).text ≠ [] := by
    intro hnil
    rw [hnil] at hmem
    exact hne (List.mem_singleton.mp hmem)
  have hgoes := (hroot.join hpath).goesBy htext hshort
  rcases List.eq_nil_or_concat ((Path.segments (root.join path).text).filter (· ≠ [])) with
    hnil | ⟨names, last, hnames⟩
  · exact absurd (List.mem_filter.mpr ⟨hmem, decide_eq_true hne⟩) (hnil ▸ List.not_mem_nil)
  · rw [hnames, List.concat_eq_append] at hgoes
    exact ⟨names, last, hgoes⟩

/-! ## Writing -/

namespace Folder

variable {f : Folder} {path : Path}

theorem write_eq_ok_iff (htree : f.disk.IsTree)
    (h : GoesBy (f.root.join path) (names ++ [last]))
    (hwants : wantsDirectory (f.root.join path) = false) (code : Text) :
    (Sink.write f path code).1 = .ok () ↔
      f.disk.lookup (f.disk.placeOf (f.root.join path)) ≠ some .dir ∧
        f.disk.IsClear (f.disk.base (f.root.join path) ++ names) := by
  have hmade := MadeAbove.makeAbove (f.root.join path) f.disk
  have htarget : (f.disk.makeAbove (f.root.join path)).2.lookup
      (f.disk.placeOf (f.root.join path)) = f.disk.lookup (f.disk.placeOf (f.root.join path)) :=
    (isNewDir_makeAbove f.disk (f.root.join path) _).resolve_right fun hnew =>
      hnew.ne_placeOf h.up_not_mem rfl
  have htakes := takes_iff (htree.makeAbove (f.root.join path)) h hwants
  rw [placeOf_congr hmade.workDir, base_congr hmade.workDir, htarget] at htakes
  rw [← makeAbove_eq_ok_iff htree h]
  rcases f.write_courses path code with ⟨failure, habove, hwrite⟩ | ⟨habove, hput, hwrite⟩ |
    ⟨habove, hput, cause, hwrite⟩
  · rw [hwrite, habove]
    exact ⟨nofun, fun h => nomatch h.2⟩
  · rw [hwrite]
    exact ⟨fun _ => ⟨(htakes (lookup_makeAbove htree h habove)).mp hput, habove⟩, fun _ => rfl⟩
  · rw [hwrite]
    refine ⟨nofun, fun ⟨hfree, _⟩ => ?_⟩
    exact absurd ((htakes (lookup_makeAbove htree h habove)).mpr hfree) hput

/-- A write that fails blames the directory for its target if a file is on the way there, and the
target if that is a directory. -/
theorem blamed_of_write (htree : f.disk.IsTree)
    (h : GoesBy (f.root.join path) (names ++ [last])) {code : Text} {failure : IoFailure}
    (hfailed : (Sink.write f path code).1 = .error failure) :
    (¬ f.disk.IsClear (f.disk.base (f.root.join path) ++ names) →
        (f.root.join path).parent? = some failure.path) ∧
      (f.disk.lookup (f.disk.placeOf (f.root.join path)) = some .dir →
        failure.path = f.root.join path) := by
  rw [← makeAbove_eq_ok_iff htree h]
  rcases f.write_courses path code with ⟨failure', habove, hwrite⟩ | ⟨-, -, hwrite⟩ |
    ⟨habove, -, cause, hwrite⟩
  · rw [hwrite] at hfailed
    cases hfailed
    refine ⟨fun _ => parent?_of_makeAbove habove, fun hdir => ?_⟩
    have hclear := htree.isClear hdir
    rw [h.placeOf, ← List.append_assoc] at hclear
    rw [(makeAbove_eq_ok_iff htree h).mpr (hclear.of_prefix (List.prefix_append _ _))] at habove
    cases habove
  · rw [hwrite] at hfailed
    cases hfailed
  · rw [hwrite] at hfailed
    cases hfailed
    exact ⟨fun hnot => absurd habove hnot, fun _ => rfl⟩

/-! ## What a write leaves -/

theorem write_stays (f : Folder) (path : Path) (code : Text) :
    (Sink.write f path code).2.root = f.root ∧
      (Sink.write f path code).2.disk.workDir = f.disk.workDir := by
  have hmade := MadeAbove.makeAbove (f.root.join path) f.disk
  rcases f.write_courses path code with ⟨_, -, hwrite⟩ | ⟨-, -, hwrite⟩ | ⟨-, -, _, hwrite⟩
  · rw [hwrite]
    exact ⟨rfl, hmade.workDir⟩
  · rw [hwrite]
    exact ⟨rfl, hmade.workDir⟩
  · rw [hwrite]
    exact ⟨rfl, hmade.workDir⟩

theorem isTree_write (htree : f.disk.IsTree) (path : Path) (code : Text) :
    (Sink.write f path code).2.disk.IsTree := by
  have hbetween := htree.makeAbove (f.root.join path)
  rcases f.write_courses path code with ⟨_, -, hwrite⟩ | ⟨-, hput, hwrite⟩ | ⟨-, -, _, hwrite⟩
  · rw [hwrite]
    exact hbetween
  · rw [hwrite]
    exact hbetween.put_file hput code.encode
  · rw [hwrite]
    exact hbetween

theorem lookup_of_error {code : Text} {failure : IoFailure}
    (h : (Sink.write f path code).1 = .error failure) (other : Place) :
    (Sink.write f path code).2.disk.lookup other = f.disk.lookup other ∨
      IsNewDir f.disk (Sink.write f path code).2.disk (f.root.join path) other := by
  have hbetween := isNewDir_makeAbove f.disk (f.root.join path) other
  rcases f.write_courses path code with ⟨_, -, hwrite⟩ | ⟨-, -, hwrite⟩ | ⟨-, -, _, hwrite⟩
  · rw [hwrite]
    exact hbetween
  · rw [hwrite] at h
    cases h
  · rw [hwrite]
    exact hbetween

theorem lookup_of_ok {code : Text} (h : (Sink.write f path code).1 = .ok ()) :
    let place := f.disk.placeOf (f.root.join path)
    let left := (Sink.write f path code).2
    left.disk.readFile (f.root.join path) = .ok code.encode ∧ f.disk.lookup place ≠ some .dir ∧
      left.disk.lookup place = some (.file code.encode) ∧
      ∀ other, other ≠ place → left.disk.lookup other = f.disk.lookup other ∨
        IsNewDir f.disk left.disk (f.root.join path) other := by
  intro place left
  generalize hbetween : (f.disk.makeAbove (f.root.join path)).2 = between
  have hmade := MadeAbove.makeAbove (f.root.join path) f.disk
  have hothers := isNewDir_makeAbove f.disk (f.root.join path)
  rw [hbetween] at hmade hothers
  have hplace : between.placeOf (f.root.join path) = place := placeOf_congr hmade.workDir _
  obtain ⟨hready, htakes, hleft⟩ : between.Ready (f.root.join path) ∧
      between.Takes (f.root.join path) ∧
      left = ⟨f.root, between.put place (.file code.encode)⟩ := by
    rcases f.write_courses path code with ⟨_, -, hwrite⟩ | ⟨habove, hput, hwrite⟩ |
      ⟨-, -, _, hwrite⟩
    · rw [hwrite] at h
      cases h
    · rw [hbetween] at hput
      refine ⟨hbetween ▸ ready_of_makeAbove habove, hput, ?_⟩
      rw [← hplace, ← hbetween]
      exact congrArg Prod.snd hwrite
    · rw [hwrite] at h
      cases h
  have hfree := htakes.lookup_ne_dir
  have hholds := holds_put hready htakes code.encode
  rw [hplace] at hfree hholds
  have hne : place ≠ [] := ne_nil_of_lookup_ne_dir hfree
  rw [hleft]
  refine ⟨?_, fun hdir => hfree (hmade.toExtends.dir hdir), lookup_put_self hne, ?_⟩
  · refine readFile_of_locate (hholds.takes.locate ?_)
    exact (congrArg _ hplace).trans (lookup_put_self hne)
  · intro other hother
    have hsame : (between.put place (.file code.encode)).lookup other = between.lookup other :=
      lookup_put_of_ne hne hother
    unfold IsNewDir
    rw [hsame]
    exact hothers other

/-- **A write touches its target only.**  If it does not fail, the target is the file that
was written; whether it fails or not, whatever else was there stays as it is, and nothing
comes in addition but directories at proper prefixes of the target.

In a tree, with names only in the root and the path, it fails exactly if there is a directory
at the target or a file above it.  The file makes it fail for the directory that was to hold
the target, the directory for the target itself. -/
theorem write_touches_target (f : Folder) (path : Path) (code : Text) :
    let target := f.root.join path
    let place := f.disk.placeOf target
    let result := (Sink.write f path code).1
    let left := (Sink.write f path code).2
    (left.root = f.root ∧ left.disk.workDir = f.disk.workDir) ∧
    (f.disk.IsTree → left.disk.IsTree) ∧
    (result = .ok () → left.disk.readFile target = .ok code.encode ∧
      f.disk.lookup place ≠ some .dir ∧ left.disk.lookup place = some (.file code.encode) ∧
      ∀ other, other ≠ place → left.disk.lookup other = f.disk.lookup other ∨
        IsNewDir f.disk left.disk target other) ∧
    (∀ failure, result = .error failure → ∀ other,
      left.disk.lookup other = f.disk.lookup other ∨ IsNewDir f.disk left.disk target other) ∧
    (f.disk.IsTree → HasNames f.root → HasNames path →
      (∃ step ∈ Path.segments path.text, step ≠ []) → wantsDirectory path = false →
      Text.utf8Length target.text ≤ maxPath →
      (result = .ok () ↔ f.disk.lookup place ≠ some .dir ∧
        ∀ above, above <+: place → above ≠ place → ∀ bytes,
          f.disk.lookup above ≠ some (.file bytes)) ∧
      ∀ failure, result = .error failure →
        (∀ above bytes, above <+: place → above ≠ place →
          f.disk.lookup above = some (.file bytes) → target.parent? = some failure.path) ∧
        (f.disk.lookup place = some .dir → failure.path = target)) := by
  intro target place result left
  refine ⟨write_stays f path code, fun htree => isTree_write htree path code, lookup_of_ok,
    fun failure => lookup_of_error, ?_⟩
  intro htree hroot hpath hstep hwants hshort
  have hne : path.text ≠ [] := by
    intro hnil
    obtain ⟨step, hmem, hne⟩ := hstep
    rw [hnil] at hmem
    exact hne (List.mem_singleton.mp hmem)
  obtain ⟨names, last, hgoes⟩ := exists_goesBy_join hroot hpath hstep hshort
  rw [← wantsDirectory_join f.root hne] at hwants
  have hplace : place = f.disk.base target ++ names ++ [last] := by
    rw [List.append_assoc]
    exact hgoes.placeOf f.disk
  have hclear := isClear_iff f.disk (f.disk.base target ++ names) last
  rw [← hplace] at hclear
  refine ⟨(write_eq_ok_iff htree hgoes hwants code).trans (and_congr_right' hclear), ?_⟩
  intro failure herror
  obtain ⟨hblocked, hthere⟩ := blamed_of_write htree hgoes herror
  refine ⟨fun above bytes habove hother hfile => hblocked ?_, hthere⟩
  exact fun h => hclear.mp h above habove hother bytes hfile

/-- A folder with a file where the directory of the scenes should be, and nothing where that of
the helpers should be. -/
theorem write_touches_target_blocked :
    let disk : Disk := ⟨[(["out".toList], .dir), (["out".toList, "Scenes".toList], .file [65])], []⟩
    let f : Folder := ⟨⟨"out".toList⟩, disk⟩
    let blocked : Path := ⟨"Scenes/Day.cs".toList⟩
    let free : Path := ⟨"lib/v1/Dialog.cs".toList⟩
    let code : Text := "class".toList
    disk.IsTree ∧ HasNames f.root ∧ HasNames blocked ∧ HasNames free ∧
      (∃ failure, (Sink.write f blocked code).1 = .error failure ∧
        failure.path = ⟨"out/Scenes".toList⟩) ∧
      (Sink.write f free code).1 = .ok () ∧
      (Sink.write f free code).2.disk.readFile (f.root.join free) = .ok code.encode ∧
      (Sink.write f free code).2.disk.lookup ["out".toList, "Scenes".toList] =
        some (.file [65]) := by
  intro disk f blocked free code
  have htree : disk.IsTree := .of_entries rfl (by decide)
  have hroot : HasNames f.root := ⟨by decide, by decide⟩
  have hblocked : HasNames blocked := ⟨by decide, by decide⟩
  have hfree : HasNames free := ⟨by decide, by decide⟩
  have hscenes : disk.lookup ["out".toList, "Scenes".toList] = some (.file [65]) := rfl
  have habove : ∀ above ∈ (disk.placeOf (f.root.join free)).inits,
      disk.lookup above = none ∨ disk.lookup above = some .dir := by
    decide
  refine ⟨htree, hroot, hblocked, hfree, ?_, ?_⟩
  · obtain ⟨-, -, -, -, hnames⟩ := write_touches_target f blocked code
    obtain ⟨hok, hblame⟩ := hnames htree hroot hblocked (by decide) (by decide) (by decide)
    have hway : ["out".toList, "Scenes".toList] <+: disk.placeOf (f.root.join blocked) :=
      ⟨["Day.cs".toList], rfl⟩
    cases hresult : (Sink.write f blocked code).1 with
    | ok _ => exact absurd hscenes ((hok.mp hresult).2 _ hway (by decide) _)
    | error failure =>
        have hparent := (hblame failure hresult).1 _ _ hway (by decide) hscenes
        exact ⟨failure, rfl, (Option.some.inj hparent).symm⟩
  · obtain ⟨-, -, hframe, -, hnames⟩ := write_touches_target f free code
    obtain ⟨hok, -⟩ := hnames htree hroot hfree (by decide) (by decide) (by decide)
    have hwritten : (Sink.write f free code).1 = .ok () := by
      refine hok.mpr ⟨by decide, fun above habove' _ bytes hfile => ?_⟩
      rcases habove above ((List.mem_inits _ _).mpr habove') with hnone | hdir
      · rw [hnone] at hfile
        cases hfile
      · rw [hdir] at hfile
        cases hfile
    obtain ⟨hread, -, -, hothers⟩ := hframe hwritten
    refine ⟨hwritten, hread, ?_⟩
    rcases hothers ["out".toList, "Scenes".toList] (by decide) with hsame | hnew
    · exact hsame.trans hscenes
    · cases hscenes.symm.trans hnew.1

end Folder

end Disk

end StoryScript
