import QuineRelay.Proofs.Verify.Directories
import QuineRelay.Proofs.Verify.Steps

/-!
# A kept directory belongs to one stage

A shell that works in its directory alone neither sees nor changes what is elsewhere.
When every stage runs in a directory of its own below one root, what a stage does is
then settled by what was in its own directory, and all it changes elsewhere is that the
way to the root is made.
-/

namespace QuineRelay

/-! ## Files below a place -/

/-- Two file systems hold the same at a place and below it. -/
def Files.AgreeBelow (place : Path) (files others : Files) : Prop :=
  ∀ path, place <+: path → files.entry? path = others.entry? path

namespace Verify

/-- A shell that works in its directory alone. -/
structure IsLocal (shell : ShellFunction) : Prop where
  status_eq : ∀ files others place command, Files.AgreeBelow place files others →
    (shell files place command).status = (shell others place command).status
  stdout_eq : ∀ files others place command, Files.AgreeBelow place files others →
    (shell files place command).stdout = (shell others place command).stdout
  stderr_eq : ∀ files others place command, Files.AgreeBelow place files others →
    (shell files place command).stderr = (shell others place command).stderr
  below : ∀ files others place command, Files.AgreeBelow place files others →
    Files.AgreeBelow place (shell files place command).files (shell others place command).files
  beyond : ∀ files place command path, ¬ place <+: path →
    (shell files place command).files.entry? path = files.entry? path

variable {shell : ShellFunction} {toolchain : Toolchain} {place : Path} {printed : Bytes}
  {files others : Files} {steps : List Step}

/-- The steps of a stage see only its directory. -/
theorem IsLocal.runSteps_eq (h : IsLocal shell) (hagree : Files.AgreeBelow place files others) :
    (runSteps shell toolchain place printed files steps).1
      = (runSteps shell toolchain place printed others steps).1 := by
  induction steps generalizing files others printed with
  | nil => rfl
  | cons step rest ih =>
      rw [runSteps, runSteps, h.status_eq files others place _ hagree,
        h.stdout_eq files others place _ hagree, h.stderr_eq files others place _ hagree]
      split
      · exact ih (h.below files others place _ hagree)
      · rfl

/-- The steps of a stage change only its directory. -/
theorem IsLocal.entry?_runSteps (h : IsLocal shell) {path : Path} (hpath : ¬ place <+: path) :
    Files.entry? (runSteps shell toolchain place printed files steps).2 path
      = files.entry? path := by
  induction steps generalizing files printed with
  | nil => rfl
  | cons step rest ih =>
      rw [runSteps]
      split
      · rw [ih, h.beyond files place _ path hpath]
      · exact h.beyond files place _ path hpath

/-! ## Stages below a root -/

/-- The place of the directory of a stage that is kept below `root`. -/
def site (root : Text) (index : Nat) (stage : Stage) : Path :=
  Files.place root ++ [directoryName index stage.toolchain.name]

/-- The places on the way to a root. -/
def way (root : Text) : List Path :=
  (Files.start root).places (Files.lead root)

/-- The way to the root does not lead through the directory of a stage. -/
def IsApart (root : Text) (index : Nat) (stage : Stage) : Prop :=
  ∀ path ∈ way root, ¬ site root index stage <+: path

variable {root : Text} {index : Nat} {stage : Stage}

theorem IsApart.notMem (h : IsApart root index stage) {path : Path}
    (hpath : site root index stage <+: path) : path ∉ way root :=
  fun hway => h path hway hpath

/-- What is in the directory of a stage is neither that directory nor on the way to it. -/
theorem IsApart.file_notMem (h : IsApart root index stage) (file : Text) :
    site root index stage ++ [file] ∉ way root ++ [site root index stage] := by
  rw [List.mem_append, List.mem_singleton, not_or]
  exact ⟨h.notMem (List.prefix_append _ _), by simp⟩

/-! ### What is made and written -/

theorem way_append (root : Text) (index : Nat) (stage : Stage) :
    (Files.start root).places (Files.lead root ++ [directoryName index stage.toolchain.name])
      = way root ++ [site root index stage] := by
  rw [Path.places_append, Path.places, Path.places, (isName_directoryName index _).step_eq]
  rfl

/-- Nothing but directories stands on the way to a root. -/
def IsClear (files : Files) (root : Text) : Prop :=
  Files.IsClear files (Files.start root) (Files.lead root)

theorem makeDirectories_keptText_eq (files : Files) (root : Text) (index : Nat) (stage : Stage) :
    files.makeDirectories [] (keptText root index stage)
      = files.makeFrom (Files.start root)
        (Files.lead root ++ [directoryName index stage.toolchain.name]) := by
  have hname := isName_directoryName index stage.toolchain.name
  rw [Files.makeDirectories_eq (keptText_ne_nil root index stage), keptText,
    Files.start_joinText hname, Files.names_joinText hname]

/-- No directory is made for a stage where something else stands in its place. -/
theorem makeDirectories_of_blocked (hclear : IsClear files root)
    (hapart : IsApart root index stage) {entry : Entry} (hne : entry ≠ .directory)
    (hentry : files.entry? (site root index stage) = some entry) :
    files.makeDirectories [] (keptText root index stage) = .error .present := by
  obtain ⟨made, hmade⟩ := Files.exists_makeFrom_iff.2 hclear
  have hsite : made.entry? (site root index stage) = some entry := by
    rw [Files.entry?_makeFrom hmade, ← way.eq_def, if_neg (hapart.notMem (List.prefix_refl _)),
      hentry]
  have hstep : Path.step (Path.reach (Files.start root) (Files.lead root))
      (directoryName index stage.toolchain.name) = site root index stage :=
    (isName_directoryName index _).step_eq _
  rw [makeDirectories_keptText_eq, Files.makeFrom_append hmade, Files.makeFrom, hstep, hsite]
  cases entry with
  | directory => exact absurd rfl hne
  | file content executable => rfl
  | sink => rfl

/-- Elsewhere the directory of the stage and the way to it are made, and nothing else. -/
theorem exists_makeDirectories (hclear : IsClear files root)
    (hopen : files.entry? (site root index stage) = none ∨
      files.entry? (site root index stage) = some .directory) :
    ∃ made, files.makeDirectories [] (keptText root index stage) = .ok made ∧
      ∀ path, made.entry? path
        = if path ∈ way root ++ [site root index stage] then some .directory
          else files.entry? path := by
  have hclear' : files.IsClear (Files.start root)
      (Files.lead root ++ [directoryName index stage.toolchain.name]) := by
    intro place hplace
    rw [way_append] at hplace
    rcases List.mem_append.1 hplace with hway | hsite
    · exact hclear place hway
    · rw [List.mem_singleton.1 hsite]
      exact hopen
  obtain ⟨made, hmade⟩ := Files.exists_makeFrom_iff.2 hclear'
  refine ⟨made, by rw [makeDirectories_keptText_eq, hmade], fun path => ?_⟩
  rw [Files.entry?_makeFrom hmade, way_append]

/-- The text of its directory leads to the place of a stage. -/
theorem resolve_keptText {made : Files}
    (hmade : ∀ path ∈ way root ++ [site root index stage], made.entry? path = some .directory) :
    made.resolve [] (keptText root index stage) = .ok (site root index stage) := by
  have hname := isName_directoryName index stage.toolchain.name
  exact Files.resolve_joinText hname fun place hplace =>
    hmade place (List.mem_append_left _ hplace)

/-- The name of its file leads to a place in the directory of the stage. -/
theorem resolve_file {made : Files} (hfile : Path.IsName stage.toolchain.file)
    (hmade : ∀ path ∈ way root ++ [site root index stage], made.entry? path = some .directory) :
    made.resolve [] (Path.joinText (keptText root index stage) stage.toolchain.file)
      = .ok (site root index stage ++ [stage.toolchain.file]) := by
  have hsite := hmade _ (List.mem_append_right _ (List.mem_singleton_self _))
  rw [Files.resolve_joinText_eq (keptText_ne_nil root index stage)
    (getLast?_keptText root index stage) hfile.ne_nil (resolve_keptText hmade)]
  simp [Files.resolve, hfile.ne_nil, hfile.isAbsolute_eq, hfile.names_eq, Files.follow, hsite,
    hfile.step_eq]

/-- Where the directory of a stage is blocked, nothing is done. -/
theorem prepareKept_of_blocked (hclear : IsClear files root)
    (hapart : IsApart root index stage) {entry : Entry} (hne : entry ≠ .directory)
    (hentry : files.entry? (site root index stage) = some entry) :
    prepareKept files root index stage
      = (.error (.io ("creating " ++ keptText root index stage) FileError.present.message),
        files) := by
  rw [prepareKept, makeDirectories_of_blocked hclear hapart hne hentry]

/-- What stands in the place of the source after it was written there. -/
def sourceEntry (source : Bytes) : Option Entry → Option Entry
  | none => some (.file source false)
  | some (.file _ executable) => some (.file source executable)
  | some .directory => some .directory
  | some .sink => some .sink

/-- A source that is put in its place changes what stands there. -/
theorem entry?_put_source {made : Files} {place : Path} {source : Bytes} {content : Entry}
    (hne : made.entry? place ≠ some .directory)
    (hcontent : sourceEntry source (made.entry? place) = some content) (path : Path) :
    Files.entry? (made.put place content) path
      = if path = place then sourceEntry source (made.entry? path) else made.entry? path := by
  rw [Files.entry?_put hne]
  by_cases hpath : path = place
  · rw [if_pos hpath, if_pos hpath, hpath, hcontent]
  · rw [if_neg hpath, if_neg hpath]

/-- Where no directory stands, the source can be written, and only its place changes. -/
theorem exists_write_source {made : Files} {text : Text} {place : Path}
    (hlast : text.getLast? ≠ some '/') (hplace : made.resolve [] text = .ok place)
    (hne : made.entry? place ≠ some .directory) (source : Bytes) :
    ∃ written, made.write [] text source = .ok written ∧ made.KeepsDirectories written ∧
      ∀ path, written.entry? path
        = if path = place then sourceEntry source (made.entry? path) else made.entry? path := by
  rw [Files.write_eq hlast hplace]
  have hsource := @entry?_put_source made place source
  cases hstands : made.entry? place with
  | none =>
      rw [hstands] at hsource
      exact ⟨_, rfl, Files.keepsDirectories_put hne _, hsource (by simp) rfl⟩
  | some entry =>
      rw [hstands] at hsource hne
      cases entry with
      | directory => exact absurd rfl hne
      | file content executable =>
          exact ⟨_, rfl, Files.keepsDirectories_put (hstands ▸ hne) _, hsource hne rfl⟩
      | sink =>
          refine ⟨made, rfl, .refl made, fun path => ?_⟩
          by_cases hpath : path = place
          · rw [if_pos hpath, hpath, hstands]
            rfl
          · rw [if_neg hpath]

/-- Elsewhere the way, the directory and the source are written, unless there is a
directory in the place of the source. -/
theorem prepareKept_of_open (hclear : IsClear files root) (hapart : IsApart root index stage)
    (hfile : Path.IsName stage.toolchain.file)
    (hopen : files.entry? (site root index stage) = none ∨
      files.entry? (site root index stage) = some .directory) :
    (prepareKept files root index stage).1
      = (if files.entry? (site root index stage ++ [stage.toolchain.file]) = some .directory then
          .error (.io ("writing " ++ Path.joinText (keptText root index stage)
            stage.toolchain.file) FileError.isDirectory.message)
        else .ok (site root index stage)) ∧
    ∀ path, Files.entry? (prepareKept files root index stage).2 path
      = if path = site root index stage ++ [stage.toolchain.file] then
          sourceEntry stage.source (files.entry? path)
        else if path ∈ way root ++ [site root index stage] then some .directory
        else files.entry? path := by
  obtain ⟨made, hmade, hentries⟩ := exists_makeDirectories hclear hopen
  have hdirectories : ∀ path ∈ way root ++ [site root index stage],
      made.entry? path = some .directory := fun path hpath => by
    rw [hentries, if_pos hpath]
  have hentry : made.entry? (site root index stage ++ [stage.toolchain.file])
      = files.entry? (site root index stage ++ [stage.toolchain.file]) := by
    rw [hentries, if_neg (hapart.file_notMem _)]
  have hlast := hfile.getLast?_joinText (keptText root index stage)
  have hplace := resolve_file hfile hdirectories
  rw [prepareKept, hmade]
  by_cases hblocked : files.entry? (site root index stage ++ [stage.toolchain.file])
      = some .directory
  · have hwrite := Files.write_eq hlast hplace stage.source
    rw [hentry, hblocked] at hwrite
    simp only [writeSource, hwrite]
    refine ⟨(if_pos hblocked).symm, fun path => ?_⟩
    by_cases hpath : path = site root index stage ++ [stage.toolchain.file]
    · rw [if_pos hpath, hpath, hentry, hblocked]
      rfl
    · rw [if_neg hpath, hentries]
  · rw [← hentry] at hblocked
    obtain ⟨written, hwrite, hkeeps, hwritten⟩ :=
      exists_write_source hlast hplace hblocked stage.source
    rw [hentry] at hblocked
    simp only [writeSource, hwrite, hkeeps.resolve (resolve_keptText hdirectories)]
    refine ⟨(if_neg hblocked).symm, fun path => ?_⟩
    rw [hwritten]
    by_cases hpath : path = site root index stage ++ [stage.toolchain.file]
    · rw [if_pos hpath, if_pos hpath, hpath, hentry]
    · rw [if_neg hpath, if_neg hpath, hentries]

/-! ## What a stage sees and changes -/

/-- A stage changes nothing outside its directory, except that it makes the way to it. -/
def Changes (root : Text) (index : Nat) (stage : Stage) (files later : Files) : Prop :=
  ∀ path, ¬ site root index stage <+: path →
    later.entry? path = files.entry? path ∨
      path ∈ way root ∧ later.entry? path = some .directory

theorem Changes.refl (files : Files) : Changes root index stage files files :=
  fun _ _ => .inl rfl

theorem Changes.trans {middle later : Files} (h : Changes root index stage files middle)
    (hlater : Changes root index stage middle later) : Changes root index stage files later := by
  intro path hpath
  rcases hlater path hpath with hsame | hmade
  · rw [hsame]
    exact h path hpath
  · exact .inr hmade

/-- The way to the root stays clear. -/
theorem Changes.isClear {later : Files} (h : Changes root index stage files later)
    (hapart : IsApart root index stage) (hclear : IsClear files root) : IsClear later root := by
  intro path hpath
  rcases h path (hapart path hpath) with hsame | ⟨-, hmade⟩
  · rw [hsame]
    exact hclear path hpath
  · exact .inr hmade

/-- The directories of two stages have nothing in common. -/
theorem index_eq_of_site {other : Nat} {otherStage : Stage} {path : Path}
    (h : site root index stage <+: path) (hother : site root other otherStage <+: path) :
    index = other := by
  have hlength : (site root index stage).length = (site root other otherStage).length := by
    simp [site]
  have hsite : site root index stage = site root other otherStage :=
    (List.prefix_of_prefix_length_le h hother (Nat.le_of_eq hlength)).eq_of_length hlength
  have hname := (List.append_inj_right' hsite rfl)
  exact index_eq_of_directoryName_eq (List.cons.inj hname).1

/-- What another stage changes is not seen. -/
theorem Changes.agreeBelow {other : Nat} {otherStage : Stage} {later : Files}
    (h : Changes root other otherStage files later) (hne : other ≠ index)
    (hapart : IsApart root index stage) :
    Files.AgreeBelow (site root index stage) later files := by
  intro path hpath
  rcases h path fun hother => hne (index_eq_of_site hother hpath) with hsame | ⟨hway, -⟩
  · exact hsame
  · exact absurd hpath (hapart path hway)

/-- Writing the source changes nothing else. -/
theorem changes_prepareKept (hclear : IsClear files root) (hapart : IsApart root index stage)
    (hfile : Path.IsName stage.toolchain.file) :
    Changes root index stage files (prepareKept files root index stage).2 := by
  by_cases hopen : files.entry? (site root index stage) = none ∨
      files.entry? (site root index stage) = some .directory
  · obtain ⟨-, hentries⟩ := prepareKept_of_open hclear hapart hfile hopen
    intro path hpath
    have hne : path ≠ site root index stage ++ [stage.toolchain.file] := by
      rintro rfl
      exact hpath (List.prefix_append _ _)
    rw [hentries, if_neg hne]
    by_cases hway : path ∈ way root
    · exact .inr ⟨hway, if_pos (List.mem_append_left _ hway)⟩
    · refine .inl (if_neg fun hmem => ?_)
      rcases List.mem_append.1 hmem with hmem | hmem
      · exact hway hmem
      · exact hpath (List.mem_singleton.1 hmem ▸ List.prefix_refl _)
  · rw [not_or] at hopen
    obtain ⟨entry, hentry⟩ := Option.ne_none_iff_exists'.1 hopen.1
    rw [prepareKept_of_blocked hclear hapart (fun heq => hopen.2 (heq ▸ hentry)) hentry]
    exact .refl files

/-- Whether the source can be written is seen in the directory of the stage. -/
theorem prepareKept_agree (hclear : IsClear files root) (hothers : IsClear others root)
    (hapart : IsApart root index stage) (hfile : Path.IsName stage.toolchain.file)
    (hagree : Files.AgreeBelow (site root index stage) files others) :
    (prepareKept files root index stage).1 = (prepareKept others root index stage).1 ∧
      Files.AgreeBelow (site root index stage) (prepareKept files root index stage).2
        (prepareKept others root index stage).2 := by
  have hsite := hagree _ (List.prefix_refl _)
  by_cases hopen : files.entry? (site root index stage) = none ∨
      files.entry? (site root index stage) = some .directory
  · obtain ⟨hresult, hentries⟩ := prepareKept_of_open hclear hapart hfile hopen
    rw [hsite] at hopen
    obtain ⟨hresult', hentries'⟩ := prepareKept_of_open hothers hapart hfile hopen
    refine ⟨?_, fun path hpath => ?_⟩
    · rw [hresult, hresult', hagree _ (List.prefix_append _ _)]
    · rw [hentries, hentries', hagree path hpath]
  · rw [not_or] at hopen
    obtain ⟨entry, hentry⟩ := Option.ne_none_iff_exists'.1 hopen.1
    have hne : entry ≠ .directory := fun heq => hopen.2 (heq ▸ hentry)
    rw [prepareKept_of_blocked hclear hapart hne hentry,
      prepareKept_of_blocked hothers hapart hne (hsite ▸ hentry)]
    exact ⟨rfl, hagree⟩

/-- The steps of a stage run in its directory. -/
theorem eq_site_of_prepareKept {path : Path}
    (h : (prepareKept files root index stage).1 = .ok path) : path = site root index stage := by
  rw [prepareKept] at h
  split at h
  · cases h
  · split at h
    · cases h
    · split at h
      · cases h
      · rename_i hresolve
        obtain rfl := Except.ok.inj h
        exact Files.eq_of_resolve_joinText (isName_directoryName index _) hresolve

end Verify

end QuineRelay
