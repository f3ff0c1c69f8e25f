import Mathlib.Data.List.Nodup
import QuineRelay.Cli.Commands
import QuineRelay.Proofs.Files.Directories
import QuineRelay.Proofs.Relay.Stages

/-!
# The files of the stages

When all stages are written into a directory, each is saved under the file name of its
language. Saving keeps the directory ready for the next file, so a directory that can
take each of the files takes all of them. What is found there afterwards is, for every
file name, the last stage of that name: a route that visits a language again leaves
only the later one of its stages.
-/

namespace QuineRelay.Cli

open QuineRelay.Path (IsName joinText)

variable {files made : Files} {directory : Text} {path : Path} {names : List Text}

/-! ## A directory that takes files -/

/-- The directory is there or can be made, and what has one of the names in it is a
file. -/
def TakesFiles (files : Files) (directory : Text) (names : List Text) : Prop :=
  ∃ made, files.makeDirectories [] directory = .ok made ∧
    ∀ name ∈ names, ∀ entry, made.find [] (joinText directory name) = .ok entry →
      ∃ content executable, entry = .file content executable

/-- A directory in which there is nothing of these names takes them all. -/
theorem TakesFiles.of_missing (hmade : files.makeDirectories [] directory = .ok made)
    (hmissing : ∀ name ∈ names, (made.find [] (joinText directory name)).isOk = false) :
    TakesFiles files directory names := by
  refine ⟨made, hmade, fun name hname entry hentry => ?_⟩
  have hnone := hmissing name hname
  rw [hentry] at hnone
  cases hnone

/-- The text of the directory that is made before a file is saved in it. -/
def parent (directory : Text) : Text :=
  (Path.dropTrailing (Path.leading directory).reverse).reverse

theorem parentText?_eq_parent {name : Text} (hname : IsName name) :
    (Path.parentText? (joinText directory name)).getD [] = parent directory := by
  rw [hname.parentText?_joinText, Option.getD_some, parent]

/-- A directory that has been made, at `path`, and takes files of these names. -/
structure IsOpen (files : Files) (directory : Text) (path : Path) (names : List Text) : Prop where
  made : files.makeDirectories [] (parent directory) = .ok files
  resolve_eq : ∀ name ∈ names, files.resolve [] (joinText directory name) = .ok (path ++ [name])
  isFile : ∀ name ∈ names, ∀ entry, files.entry? (path ++ [name]) = some entry →
    ∃ content executable, entry = .file content executable

theorem TakesFiles.isOpen (h : TakesFiles files directory names)
    (hnames : ∀ name ∈ names, IsName name) :
    ∃ made path, files.makeDirectories [] (parent directory) = .ok made ∧
      IsOpen made directory path names := by
  obtain ⟨made, hmade, hfiles⟩ := h
  have hparent : files.makeDirectories [] (parent directory) = .ok made := by
    refine Files.makeDirectories_dropTrailing ?_
    rw [List.reverse_reverse]
    rcases Path.leading_cases directory with ⟨rfl, hleading⟩ | ⟨front, hleading, hfront⟩
    · exact hmade
    · rw [hleading]
      rcases hfront with rfl | ⟨rfl, hne⟩
      · exact hmade
      · exact (Files.makeDirectories_append_cons hne rfl).2 hmade
  have hresolve : ∀ name ∈ names, made.resolve [] (joinText directory name)
      = .ok (Files.place directory ++ [name]) := fun name hname =>
    Files.resolve_joinText (hnames name hname)
      (Files.leadsThrough_of_makeFrom (Files.makeDirectories_eq_ok_iff.1 hmade))
  refine ⟨made, Files.place directory, hparent, ?_, hresolve, ?_⟩
  · exact Files.makeDirectories_of_keepsDirectories hparent (.refl made)
  · intro name hname entry hentry
    refine hfiles name hname entry ?_
    rw [Files.find, hresolve name hname]
    simp only [hentry]

namespace IsOpen

variable {name : Text}

theorem ne_directory (h : IsOpen files directory path names) (hmem : name ∈ names) :
    files.entry? (path ++ [name]) ≠ some .directory := by
  intro hdirectory
  obtain ⟨content, executable, hentry⟩ := h.isFile name hmem _ hdirectory
  cases hentry

/-- Saving a file makes it the entry under its name. -/
theorem save (h : IsOpen files directory path names) (hmem : name ∈ names) (hname : IsName name)
    (content : Bytes) :
    ∃ executable, Cli.save files (joinText directory name) content
      = .ok (files.put (path ++ [name]) (.file content executable)) := by
  obtain ⟨executable, hwrite⟩ := Files.exists_write_eq_put (hname.getLast?_joinText directory)
    (h.resolve_eq name hmem) (h.isFile name hmem) content
  refine ⟨executable, ?_⟩
  simp only [Cli.save, parentText?_eq_parent hname, h.made, hwrite]

/-- After a file was saved the directory takes the next one. -/
theorem put (h : IsOpen files directory path names) (hmem : name ∈ names) (content : Bytes)
    (executable : Bool) :
    IsOpen (files.put (path ++ [name]) (.file content executable)) directory path names where
  made := Files.makeDirectories_of_keepsDirectories h.made
    (Files.keepsDirectories_put (h.ne_directory hmem) _)
  resolve_eq other hother :=
    (Files.keepsDirectories_put (h.ne_directory hmem) _).resolve (h.resolve_eq other hother)
  isFile other hother entry hentry := by
    rw [Files.entry?_put (h.ne_directory hmem)] at hentry
    split at hentry
    · exact ⟨content, executable, (Option.some.inj hentry).symm⟩
    · exact h.isFile other hother entry hentry

theorem read_eq (h : IsOpen files directory path names) (hmem : name ∈ names) {content : Bytes}
    {executable : Bool} (hentry : files.entry? (path ++ [name]) = some (.file content executable)) :
    files.read [] (joinText directory name) = .ok content :=
  Files.read_of_entry? (h.resolve_eq name hmem) hentry

end IsOpen

/-! ## Saving the stages -/

/-- The directory of the files is made when the first of them is saved. -/
theorem saveAll_of_saveAll_made {name : Text} {content : Bytes} {rest : List (Text × Bytes)}
    {saved : Files} (hmade : files.makeDirectories [] (parent directory) = .ok made)
    (hkept : made.makeDirectories [] (parent directory) = .ok made) (hname : IsName name)
    (h : saveAll made ((joinText directory name, content) :: rest) = (none, saved)) :
    saveAll files ((joinText directory name, content) :: rest) = (none, saved) := by
  simp only [saveAll, save, parentText?_eq_parent hname, hmade, hkept] at h ⊢
  cases hwrite : made.write [] (joinText directory name) content with
  | ok written => simpa only [hwrite] using h
  | error e => simp [hwrite] at h

/-- The last of the stages that are saved under a file name. -/
def lastOf (name : Text) (stages : List Stage) : Option Stage :=
  stages.reverse.find? fun stage => stage.toolchain.file = name

theorem lastOf_cons (name : Text) (stage : Stage) (stages : List Stage) :
    lastOf name (stage :: stages)
      = (lastOf name stages).or (if stage.toolchain.file = name then some stage else none) := by
  rw [lastOf, List.reverse_cons, List.find?_append, lastOf, List.find?_singleton]
  simp

/-- The stage that is found under the name of a stage is that stage or a later one. -/
theorem exists_lastOf {stages : List Stage} {stage : Stage} (h : stage ∈ stages) :
    ∃ last, lastOf stage.toolchain.file stages = some last ∧ last ∈ stages ∧
      last.toolchain.file = stage.toolchain.file := by
  cases hlast : lastOf stage.toolchain.file stages with
  | none =>
      have := List.find?_eq_none.1 hlast stage (List.mem_reverse.2 h)
      simp at this
  | some last =>
      refine ⟨last, rfl, List.mem_reverse.1 (List.mem_of_find?_eq_some hlast), ?_⟩
      simpa using List.find?_some hlast

/-- Where no two stages have one file name, each stage is the last of its name. -/
theorem lastOf_of_nodup {stages : List Stage}
    (hnodup : (stages.map fun stage => stage.toolchain.file).Nodup) {stage : Stage}
    (h : stage ∈ stages) : lastOf stage.toolchain.file stages = some stage := by
  obtain ⟨last, hlast, hmem, hfile⟩ := exists_lastOf h
  rw [hlast, List.inj_on_of_nodup_map hnodup hmem h hfile]

/-- Stages are saved one after the other, each in the place of earlier ones of its file
name. -/
theorem exists_saveAll (h : IsOpen files directory path names)
    (hnames : ∀ name ∈ names, IsName name) {stages : List Stage}
    (hstages : ∀ stage ∈ stages, stage.toolchain.file ∈ names) :
    ∃ saved, saveAll files (stages.map fun stage =>
        (joinText directory stage.toolchain.file, stage.source)) = (none, saved) ∧
      IsOpen saved directory path names ∧
      ∀ name ∈ names,
        (∀ last, lastOf name stages = some last →
          ∃ executable, saved.entry? (path ++ [name]) = some (.file last.source executable)) ∧
        (lastOf name stages = none →
          saved.entry? (path ++ [name]) = files.entry? (path ++ [name])) := by
  induction stages generalizing files with
  | nil => exact ⟨files, rfl, h, fun name _ => ⟨fun last hlast => (by cases hlast), fun _ => rfl⟩⟩
  | cons stage stages ih =>
      obtain ⟨hstage, hstages⟩ := List.forall_mem_cons.1 hstages
      obtain ⟨executable, hsave⟩ := h.save hstage (hnames _ hstage) stage.source
      have hput := h.put hstage stage.source executable
      obtain ⟨saved, hsaved, hopen, hentries⟩ := ih hput hstages
      refine ⟨saved, ?_, hopen, fun name hname => ?_⟩
      · rw [List.map_cons, saveAll, hsave]
        exact hsaved
      · obtain ⟨hfound, hnotFound⟩ := hentries name hname
        rw [lastOf_cons]
        cases hlater : lastOf name stages with
        | some last =>
            refine ⟨fun other hother => ?_, fun hnone => (by cases hnone)⟩
            obtain rfl : last = other := Option.some.inj hother
            exact hfound last hlater
        | none =>
            rw [hnotFound hlater, Files.entry?_put (h.ne_directory hstage), Option.none_or]
            by_cases hfile : stage.toolchain.file = name
            · rw [if_pos hfile, if_pos (by rw [hfile])]
              refine ⟨fun last hlast => ⟨executable, ?_⟩, fun hnone => (by cases hnone)⟩
              rw [Option.some.inj hlast]
            · rw [if_neg hfile, if_neg (by simpa using Ne.symm hfile)]
              exact ⟨fun last hlast => (by cases hlast), fun _ => rfl⟩

/-! ## Generating into a directory -/

/-- The names under which standard stages are saved are names of files. -/
theorem isName_of_mem_standard :
    IsName Language.origin.file ∧
      ∀ language ∈ Language.standard, IsName language.toolchain.file := by
  decide

/-- The stages of a relay that a user chose are those of standard languages. -/
theorem isName_of_composeRoute {languages : Option Text} {settings : Settings} {relay : Relay}
    (h : composeRoute languages settings = .ok relay) :
    ∀ stage ∈ relay.stages, IsName stage.toolchain.file := by
  obtain ⟨route, hroute, hcompose⟩ := bind_eq_ok_iff.1 h
  intro stage hstage
  have htoolchain : stage.toolchain ∈ route.toolchains := by
    rw [← Relay.toolchains_of_compose hcompose]
    exact List.mem_map_of_mem hstage
  rcases List.mem_cons.1 htoolchain with heq | hmem
  · rw [heq]
    exact isName_of_mem_standard.1
  · obtain ⟨language, hlanguage, heq⟩ := List.mem_map.1 hmem
    rw [← heq]
    exact isName_of_mem_standard.2 language (Route.mem_standard_of_ofNameList hroute _ hlanguage)

/-- The stages of a relay are saved in a directory that takes them, and under the name of
each the last stage of that name is read. -/
theorem exists_saved {relay : Relay} (hisName : ∀ stage ∈ relay.stages, IsName stage.toolchain.file)
    (htakes : TakesFiles files directory (relay.stages.map fun stage => stage.toolchain.file)) :
    ∃ saved, saveAll files (stageFiles directory relay) = (none, saved) ∧
      ∀ stage ∈ relay.stages, ∃ last, lastOf stage.toolchain.file relay.stages = some last ∧
        saved.read [] (joinText directory stage.toolchain.file) = .ok last.source := by
  have hnames : ∀ name ∈ relay.stages.map (fun stage => stage.toolchain.file), IsName name :=
    List.forall_mem_map.2 hisName
  obtain ⟨made, path, hmade, hopen⟩ := htakes.isOpen hnames
  obtain ⟨saved, hsaved, hsavedOpen, hentries⟩ := exists_saveAll hopen hnames
    fun stage (hstage : stage ∈ relay.stages) => List.mem_map_of_mem hstage
  refine ⟨saved, ?_, fun stage hstage => ?_⟩
  · -- The first file makes the directory, so nothing changes when it is made before.
    obtain ⟨stage, rest, hstages⟩ := List.exists_cons_of_ne_nil relay.ne_nil
    have hname := hisName stage (hstages ▸ List.mem_cons_self)
    rw [hstages, List.map_cons] at hsaved
    rw [stageFiles, hstages, List.map_cons]
    exact saveAll_of_saveAll_made hmade hopen.made hname hsaved
  · obtain ⟨last, hlast, -⟩ := exists_lastOf hstage
    have hmem := List.mem_map_of_mem (f := fun stage : Stage => stage.toolchain.file) hstage
    obtain ⟨executable, hentry⟩ := (hentries _ hmem).1 last hlast
    exact ⟨last, hlast, hsavedOpen.read_eq hmem hentry⟩

/-- Files of different names have different texts in a directory. -/
theorem nodup_joinText (directory : Text) (hnames : ∀ name ∈ names, IsName name)
    (hnodup : names.Nodup) : (names.map (joinText directory)).Nodup := by
  refine hnodup.map_on fun name hname other hother heq => ?_
  rw [(hnames name hname).joinText_eq, (hnames other hother).joinText_eq] at heq
  exact List.append_cancel_left heq

/-- A directory that takes the files of a relay gets all of them, and under each file
name the last stage of that name can be read. Where no two stages share a file name,
there is one file for each stage, which holds the source of that stage. -/
theorem generate_stores_last_of_each_name {options : GenerateOptions} {relay : Relay}
    (hdirectory : options.directory = some directory) (houtput : options.output = none)
    (hrelay : composeRoute options.languages options.settings = .ok relay)
    (htakes : TakesFiles files directory (relay.stages.map fun stage => stage.toolchain.file)) :
    (generate options files).exit = 0 ∧
      (∀ stage ∈ relay.stages, ∃ last, lastOf stage.toolchain.file relay.stages = some last ∧
        (generate options files).files.read [] (joinText directory stage.toolchain.file)
          = .ok last.source) ∧
      ((relay.stages.map fun stage => stage.toolchain.file).Nodup →
        (relay.stages.map fun stage => joinText directory stage.toolchain.file).Nodup ∧
        ∀ stage ∈ relay.stages,
          (generate options files).files.read [] (joinText directory stage.toolchain.file)
            = .ok stage.source) := by
  have hisName := isName_of_composeRoute hrelay
  obtain ⟨saved, hsaved, hread⟩ := exists_saved hisName htakes
  have hexit : (generate options files).exit = 0 := by
    simp only [generate, hrelay, hdirectory, houtput, writeStages, hsaved]
  have hfiles : (generate options files).files = saved := by
    simp only [generate, hrelay, hdirectory, houtput, writeStages, hsaved]
  rw [hfiles]
  refine ⟨hexit, hread, fun hnodup => ⟨?_, fun stage hstage => ?_⟩⟩
  · have hnames := nodup_joinText directory (List.forall_mem_map.2 hisName) hnodup
    rwa [List.map_map] at hnames
  · obtain ⟨last, hlast, hread⟩ := hread stage hstage
    rw [lastOf_of_nodup hnodup hstage] at hlast
    rw [hread, Option.some.inj hlast]

/-- A relay of two programs, in a new directory. -/
theorem generate_stores_last_of_each_name_php :
    ∃ relay, composeRoute (some "php") {} = .ok relay ∧
      ∀ stage ∈ relay.stages,
        (generate { directory := some "out", languages := some "php" } Files.empty).files.read
          [] (joinText "out" stage.toolchain.file) = .ok stage.source := by
  have hany : (composeRoute (some "php") {}).toOption.any (fun relay =>
      (relay.stages.map fun stage => stage.toolchain.file)
        = (["QR.rb", "QR.php"] : List Text)) = true := by
    decide +kernel
  obtain ⟨relay, hrelay, htest⟩ := exists_ok_of_any hany
  have hnames := of_decide_eq_true htest
  have htakes : TakesFiles Files.empty "out"
      (relay.stages.map fun stage => stage.toolchain.file) := by
    rw [hnames]
    exact .of_missing rfl (by decide)
  let options : GenerateOptions := { directory := some "out", languages := some "php" }
  obtain ⟨-, -, hstored⟩ := generate_stores_last_of_each_name
    (show options.directory = some "out" from rfl) rfl hrelay htakes
  exact ⟨relay, hrelay, (hstored (by rw [hnames]; decide)).2⟩

/-- A relay that visits Lua twice keeps only the later of the two stages. -/
theorem not_forall_stage_stored :
    ¬ ∀ (options : GenerateOptions) (files : Files) (directory : Text) (relay : Relay),
      options.directory = some directory → options.output = none →
      composeRoute options.languages options.settings = .ok relay →
      TakesFiles files directory (relay.stages.map fun stage => stage.toolchain.file) →
      ∀ stage ∈ relay.stages,
        (generate options files).files.read [] (joinText directory stage.toolchain.file)
          = .ok stage.source := by
  intro hall
  have hany : (composeRoute (some "lua,lua") {}).toOption.any (fun relay =>
      (relay.stages.map fun stage => stage.toolchain.file)
          = (["QR.rb", "QR.lua", "QR.lua"] : List Text) ∧
        (relay.stages.map Stage.source).Nodup) = true := by
    decide +kernel
  obtain ⟨relay, hrelay, htest⟩ := exists_ok_of_any hany
  obtain ⟨hnames, hsources⟩ := of_decide_eq_true htest
  have htakes : TakesFiles Files.empty "out"
      (relay.stages.map fun stage => stage.toolchain.file) := by
    rw [hnames]
    exact .of_missing rfl (by decide)
  have hstored := hall { directory := some "out", languages := some "lua,lua" }
    Files.empty "out" relay rfl rfl hrelay htakes
  -- One file would hold the sources of both stages, which are different.
  obtain ⟨origin, first, second, hstages⟩ : ∃ origin first second,
      relay.stages = [origin, first, second] := by
    have hlength := congrArg List.length hnames
    rw [List.length_map] at hlength
    exact List.length_eq_three.1 hlength
  rw [hstages] at hnames hsources hstored
  simp only [List.map_cons, List.map_nil, List.cons.injEq] at hnames
  obtain ⟨-, hfirst, hsecond, -⟩ := hnames
  have hreadFirst := hstored first (by simp)
  have hreadSecond := hstored second (by simp)
  rw [hfirst] at hreadFirst
  rw [hsecond, hreadFirst] at hreadSecond
  simp [Except.ok.inj hreadSecond] at hsources

end QuineRelay.Cli
