import QuineRelay.Proofs.Verify.Interleaving

/-!
# Every stage that is kept has a place of its own

The directory of a stage is a single name below the root, whatever its language is called:
the characters of that name neither divide a path nor lead upwards. The digits before the
first dash are those of the index, so two stages never share a directory, also when what is
left of their languages is the same. The steps of a stage run there and nowhere else, in
whatever order the stages take their turns; this needs nothing to be known of the shell, of
the root or of what stands there.
-/

namespace QuineRelay.Verify

variable {shell : ShellFunction} {config : Config} {relay : Relay} {files made : Files}
  {root : Text} {index other : Nat} {stage otherStage : Stage}

/-- The directories of different stages have different texts. -/
theorem index_eq_of_keptText_eq
    (h : keptText root index stage = keptText root other otherStage) : index = other := by
  rw [keptText, keptText, (isName_directoryName index _).joinText_eq,
    (isName_directoryName other _).joinText_eq] at h
  exact index_eq_of_directoryName_eq (List.append_cancel_left h)

/-- For the directory of a stage, the way to the root and the directory are made, and nothing
else. -/
theorem entry?_makeDirectories_keptText
    (h : files.makeDirectories [] (keptText root index stage) = .ok made) (path : Path) :
    made.entry? path
      = if path ∈ way root ++ [site root index stage] then some .directory
        else files.entry? path := by
  rw [makeDirectories_keptText_eq] at h
  rw [Files.entry?_makeFrom h, way_append]

/-- A stage that is kept is refused, whatever the shell would do, or its source is written to
its directory and its steps run at its site. -/
theorem runKept_cases (files : Files) (root : Text) (index : Nat) (stage : Stage) :
    (∃ failure later, ∀ shell, runKept shell files root index stage = (.error failure, later)) ∨
      ∃ made written, files.makeDirectories [] (keptText root index stage) = .ok made ∧
        writeSource made (keptText root index stage) stage = .ok written ∧
        ∀ shell, runKept shell files root index stage
          = runSteps shell stage.toolchain (site root index stage) [] written
            stage.toolchain.steps := by
  simp only [runKept, prepareKept]
  cases hmade : files.makeDirectories [] (keptText root index stage) with
  | error e => exact .inl ⟨_, _, fun _ => rfl⟩
  | ok made =>
      dsimp only
      cases hwrite : writeSource made (keptText root index stage) stage with
      | error failure => exact .inl ⟨_, _, fun _ => rfl⟩
      | ok written =>
          dsimp only
          cases hresolve : written.resolve [] (keptText root index stage) with
          | error e => exact .inl ⟨_, _, fun _ => rfl⟩
          | ok directory =>
              obtain rfl := Files.eq_of_resolve_joinText (isName_directoryName index _) hresolve
              exact .inr ⟨made, written, rfl, hwrite, fun _ => rfl⟩

/-- Stages that take turns in any order run where they should. -/
theorem Board.inPlace_play {board : Board} {schedule : List (Stage × Nat)}
    (hschedule : ∀ entry ∈ schedule, entry ∈ relay.stages.zipIdx)
    (h : ∀ entry ∈ relay.stages.zipIdx,
      InPlace config entry.2 entry.1 (board.progress entry.2)) :
    ∀ entry ∈ relay.stages.zipIdx, InPlace config entry.2 entry.1
      ((Board.play shell config board schedule).progress entry.2) := by
  induction schedule generalizing board with
  | nil => exact h
  | cons entry schedule ih =>
      obtain ⟨hentry, hschedule⟩ := List.forall_mem_cons.1 hschedule
      exact ih hschedule (Board.inPlace_turn hentry h)

/-- A stage that is kept and runs, after any turns of any stages, runs at its site. -/
theorem eq_site_of_running (hkeep : config.keep = some root) {schedule : List (Stage × Nat)}
    (hschedule : ∀ entry ∈ schedule, entry ∈ relay.stages.zipIdx)
    (hstage : relay.stages[index]? = some stage) {own : Option Files} {directory : Path}
    {printed : Bytes} {steps : List Step}
    (h : (Board.play shell config (.start files) schedule).progress index
      = .running own directory printed steps) :
    directory = site root index stage := by
  have hstart : ∀ entry ∈ relay.stages.zipIdx,
      InPlace config entry.2 entry.1 ((Board.start files).progress entry.2) :=
    fun _ _ => trivial
  have hplace : InPlace config index stage
      ((Board.play shell config (.start files) schedule).progress index) :=
    Board.inPlace_play hschedule hstart (stage, index) (List.mem_zipIdx_iff_getElem?.2 hstage)
  simp only [h, InPlace, hkeep] at hplace
  exact hplace.2

/-- Kept directories neither collide nor escape. The directory of a stage is a child of the
root, under a name of digits, small letters and dashes. It and the way to the root are all
that is made for the stage. Unless the stage is refused before its first step, its source is
written there and its steps run there, on their own as well as after any turns of any stages.
The directories of stages with different indices differ, and nothing is in both, whatever the
languages are called. -/
theorem kept_directories_apart (root : Text) (relay : Relay) :
    -- The directory of a stage is a child of the root.
    (∀ (files : Files) path, files.resolve [] root = .ok path → path = Files.place root) ∧
    (∀ index stage, relay.stages[index]? = some stage →
      ∃ name, keptText root index stage = Path.joinText root name ∧
        site root index stage = Files.place root ++ [name] ∧ Path.IsName name ∧
        ∀ c ∈ name, c.isDigit = true ∨ c.isLower = true ∨ c = '-') ∧
    (∀ (files made : Files) index stage,
      files.makeDirectories [] (keptText root index stage) = .ok made →
      ∀ path, made.entry? path
        = if path ∈ way root ++ [site root index stage] then some .directory
          else files.entry? path) ∧
    -- Its steps run there.
    (∀ files index stage,
      (∃ failure later, ∀ shell,
        runKept shell files root index stage = (.error failure, later)) ∨
      ∃ made written, files.makeDirectories [] (keptText root index stage) = .ok made ∧
        writeSource made (keptText root index stage) stage = .ok written ∧
        ∀ shell, runKept shell files root index stage
          = runSteps shell stage.toolchain (site root index stage) [] written
            stage.toolchain.steps) ∧
    (∀ shell config files schedule index stage own directory printed steps,
      config.keep = some root → (∀ entry ∈ schedule, entry ∈ relay.stages.zipIdx) →
      relay.stages[index]? = some stage →
      (Board.play shell config (.start files) schedule).progress index
        = .running own directory printed steps →
      directory = site root index stage) ∧
    -- No other stage has it.
    ∀ index other stage otherStage, relay.stages[index]? = some stage →
      relay.stages[other]? = some otherStage → index ≠ other →
      keptText root index stage ≠ keptText root other otherStage ∧
        ∀ path, site root index stage <+: path → ¬ site root other otherStage <+: path := by
  refine ⟨fun files path => Files.eq_place_of_resolve, fun index stage _ => ?_,
    fun files made index stage => entry?_makeDirectories_keptText,
    fun files index stage => runKept_cases files root index stage,
    fun shell config files schedule index stage own directory printed steps hkeep hschedule
      hstage => eq_site_of_running hkeep hschedule hstage,
    fun index other stage otherStage _ _ hne => ⟨fun heq => ?_, fun path hpath hother => ?_⟩⟩
  · refine ⟨directoryName index stage.toolchain.name, rfl, rfl, isName_directoryName _ _,
      fun c hc => ?_⟩
    have hchar := isDirectoryChar_of_mem hc
    rw [isDirectoryChar, Bool.or_eq_true, Bool.or_eq_true, beq_iff_eq, or_assoc] at hchar
    exact hchar
  · exact hne (index_eq_of_keptText_eq heq)
  · exact hne (index_eq_of_site hpath hother)

/-- Two stages whose languages differ, and leave the same name for a directory. -/
def foldedRelay : Relay where
  stages :=
    [⟨⟨"../C+", "first", [⟨.run, "cat {src}", none⟩]⟩, Utf8.encode "one"⟩,
      ⟨⟨"cP", "second", [⟨.run, "cat {src}", none⟩]⟩, Utf8.encode "two"⟩]
  ne_nil := by decide

/-- Below a root whose text leads upwards and ends with a separator, their directories have
the same language and different indices, and the second stage runs in its own after the first
had its turn. -/
theorem kept_directories_apart_folded :
    ∃ first second : Stage, foldedRelay.stages = [first, second] ∧
      keptText "a/../" 0 first = ("a/../00-cp" : Text) ∧
      keptText "a/../" 1 second = ("a/../01-cp" : Text) ∧
      (∀ path, site "a/../" 0 first <+: path → ¬ site "a/../" 1 second <+: path) ∧
      ∃ printed steps, (Board.play (fun files _ _ => ⟨.code 0, [], [], files⟩)
          { keep := some "a/../" } (.start Files.empty) [(first, 0), (second, 1)]).progress 1
        = .running none (site "a/../" 1 second) printed steps := by
  obtain ⟨-, -, -, -, hruns, hapart⟩ := kept_directories_apart "a/../" foldedRelay
  obtain ⟨-, hsites⟩ := hapart 0 1 _ _ rfl rfl (by decide)
  obtain ⟨directory, printed, steps, hprogress⟩ : ∃ directory printed steps,
      (Board.play (fun files _ _ => ⟨.code 0, [], [], files⟩) { keep := some "a/../" }
        (.start Files.empty) foldedRelay.stages.zipIdx).progress 1
      = .running none directory printed steps := ⟨_, _, _, rfl⟩
  obtain rfl := hruns _ _ _ _ 1 _ _ _ _ _ rfl (fun _ hentry => hentry) rfl hprogress
  exact ⟨_, _, rfl, by decide, by decide, hsites, printed, steps, hprogress⟩

end QuineRelay.Verify
