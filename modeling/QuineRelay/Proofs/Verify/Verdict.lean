import QuineRelay.Proofs.Payload
import QuineRelay.Proofs.Verify.Directories
import QuineRelay.Proofs.Verify.Steps

/-!
# The verdict on a stage

A stage runs where its source was written: in new files of its own, or in a directory
that is kept. It passes just when it can be written, every step succeeds and the last
one prints the source of the next stage; and when it does not, its failure says which
of these did not hold.
-/

namespace QuineRelay.Verify

variable {shell : ShellFunction} {config : Config} {relay : Relay} {before written : Files}
  {index : Nat} {stage : Stage} {directory : Path}

/-! ## Where a stage runs -/

/-- The source of a stage has been written, and its steps run in `directory`. -/
inductive Prepared (config : Config) (before : Files) (index : Nat) (stage : Stage) :
    Path → Files → Prop
  | scratch {written : Files} (hkeep : config.keep = none)
      (hwrite : writeSource Files.empty [] stage = .ok written) :
      Prepared config before index stage [] written
  | kept {root : Text} {made written : Files} {directory : Path} (hkeep : config.keep = some root)
      (hmade : before.makeDirectories [] (keptText root index stage) = .ok made)
      (hwrite : writeSource made (keptText root index stage) stage = .ok written)
      (hresolve : written.resolve [] (keptText root index stage) = .ok directory) :
      Prepared config before index stage directory written

theorem writeSource_eq_ok_iff {files : Files} {text : Text} :
    writeSource files text stage = .ok written ↔
      files.write [] (Path.joinText text stage.toolchain.file) stage.source = .ok written := by
  simp only [writeSource]
  split
  · rename_i hwrite
    rw [hwrite, Except.ok.injEq, Except.ok.injEq]
  · rename_i hwrite
    rw [hwrite]
    simp

/-- The place where a stage runs holds its source, unless a device stands there. -/
theorem Prepared.read_eq (h : Prepared config before index stage directory written) :
    written.read directory stage.toolchain.file = .ok stage.source ∨
      written.find directory stage.toolchain.file = .ok .sink := by
  cases h with
  | scratch hkeep hwrite =>
      have hjoin : Path.joinText [] stage.toolchain.file = stage.toolchain.file := by
        simp [Path.joinText]
      rw [writeSource_eq_ok_iff, hjoin] at hwrite
      exact Files.read_of_write hwrite
  | @kept root _ _ _ hkeep hmade hwrite hresolve =>
      rw [writeSource_eq_ok_iff] at hwrite
      have hfile : stage.toolchain.file ≠ [] := by
        intro hnil
        refine Files.getLast?_of_write hwrite ?_
        have hne := keptText_ne_nil root index stage
        have hlast := beq_eq_false_iff_ne.2 (getLast?_keptText root index stage)
        simp [hnil, Path.joinText, Path.isAbsolute, hne, hlast]
      have hsame := Files.resolve_joinText_eq (keptText_ne_nil root index stage)
        (getLast?_keptText root index stage) hfile hresolve
      have hread := Files.read_of_write hwrite
      simpa only [Files.read, Files.find, hsame] using hread

/-- In new files there is a place for every source with the name of a file. -/
theorem exists_prepared_of_scratch (hkeep : config.keep = none)
    (hfile : Path.IsName stage.toolchain.file) (before : Files) (index : Nat) :
    ∃ written, Prepared config before index stage [] written := by
  have hplace : Files.empty.resolve [] (Path.joinText [] stage.toolchain.file)
      = .ok [stage.toolchain.file] := Files.resolve_joinText hfile (by simp [Files.LeadsThrough,
        Files.lead, Path.places])
  have hnone : Files.empty.entry? [stage.toolchain.file] = none := by
    have hroot : stage.toolchain.file ≠ Path.root := fun heq => hfile.notMem (by rw [heq]; decide)
    simp [Files.entry?, Path.isAscent, hfile.ne_above, hroot, Files.empty, List.lookup_cons]
  obtain ⟨executable, hwrite⟩ := Files.exists_write_eq_put (hfile.getLast?_joinText []) hplace
    (fun entry hentry => by simp [hnone] at hentry) stage.source
  exact ⟨_, .scratch hkeep (writeSource_eq_ok_iff.2 hwrite)⟩

/-! ## What is said about a stage -/

/-- A stage that can be written is judged by its steps. -/
theorem runStage_of_prepared (h : Prepared config before index stage directory written) :
    runStage shell config relay before index stage
      = ({ index
           language := stage.toolchain.name
           failure := failureOf relay index stage
            (runSteps shell stage.toolchain directory [] written stage.toolchain.steps).1 },
        if config.keep.isSome then
          (runSteps shell stage.toolchain directory [] written stage.toolchain.steps).2
        else before) := by
  cases h with
  | scratch hkeep hwrite =>
      simp only [runStage, hkeep, runInScratch, hwrite]
      rfl
  | kept hkeep hmade hwrite hresolve =>
      simp only [runStage, hkeep, runKept, prepareKept, hmade, hwrite, hresolve]
      rfl

/-- A stage that cannot be written is not run. -/
theorem runStage_of_not_prepared (shell : ShellFunction) (relay : Relay)
    (h : ∀ directory written, ¬ Prepared config before index stage directory written) :
    ∃ context cause, (runStage shell config relay before index stage).1
      = ⟨index, stage.toolchain.name, some (.io context cause)⟩ := by
  cases hkeep : config.keep with
  | none =>
      cases hwrite : Files.empty.write [] (Path.joinText [] stage.toolchain.file) stage.source with
      | ok written =>
          exact absurd (.scratch hkeep (writeSource_eq_ok_iff.2 hwrite)) (h [] written)
      | error e =>
          simp only [runStage, hkeep, runInScratch, writeSource, hwrite]
          exact ⟨_, _, rfl⟩
  | some root =>
      cases hmade : before.makeDirectories [] (keptText root index stage) with
      | error e =>
          simp only [runStage, hkeep, runKept, prepareKept, hmade]
          exact ⟨_, _, rfl⟩
      | ok made =>
          cases hwrite : made.write [] (Path.joinText (keptText root index stage)
              stage.toolchain.file) stage.source with
          | error e =>
              simp only [runStage, hkeep, runKept, prepareKept, hmade, writeSource, hwrite]
              exact ⟨_, _, rfl⟩
          | ok written =>
              cases hresolve : written.resolve [] (keptText root index stage) with
              | ok directory =>
                  have hprepared :=
                    Prepared.kept hkeep hmade (writeSource_eq_ok_iff.2 hwrite) hresolve
                  exact absurd hprepared (h directory written)
              | error e =>
                  simp only [runStage, hkeep, runKept, prepareKept, hmade, writeSource, hwrite,
                    hresolve]
                  exact ⟨_, _, rfl⟩

/-- What a stage that runs in `directory`, from the files `written` on, gives step by
step. -/
def resultsOf (shell : ShellFunction) (stage : Stage) (directory : Path) (written : Files) :
    List CommandResult :=
  results shell stage.toolchain directory written stage.toolchain.steps

/-- An outcome says how a stage, verified on the files `before`, fared. -/
structure Judges (shell : ShellFunction) (config : Config) (relay : Relay) (before : Files)
    (index : Nat) (stage : Stage) (outcome : Outcome) (after : Files) : Prop where
  index_eq : outcome.index = index
  language_eq : outcome.language = stage.toolchain.name
  /-- The stage passes just when it can be written, all steps succeed, and the last
  output is the source of the next stage. -/
  passes_iff : outcome.failure = none ↔
    ∃ directory written, Prepared config before index stage directory written ∧
      AllSucceed (resultsOf shell stage directory written) ∧
      (relay.stages[(index + 1) % relay.length]?).map Stage.source
        = some (lastOutput [] (resultsOf shell stage directory written))
  /-- The first step that does not succeed is the failure, and no later step has a part in
  what is left in a directory that is kept. -/
  firstFailure : ∀ directory written k result,
    Prepared config before index stage directory written →
    FirstFailure (resultsOf shell stage directory written) k result →
    (∃ step, stage.toolchain.steps[k]? = some step ∧
      outcome.failure = some (.step stage.toolchain.name (step.commandFor stage.toolchain.file)
        result.status (Utf8.decodeLossy result.stderr))) ∧
    after = if config.keep.isSome then result.files else before
  /-- When all steps succeed, a wrong output is the failure, with the length of the longest
  beginning that it shares with the right one. -/
  mismatch : ∀ directory written, Prepared config before index stage directory written →
    AllSucceed (resultsOf shell stage directory written) →
    lastOutput [] (resultsOf shell stage directory written) ≠ relay.expectedOutput index →
    ∃ common, Payload.IsCommonBeginning common (relay.expectedOutput index)
        (lastOutput [] (resultsOf shell stage directory written)) ∧
      outcome.failure = some (.mismatch
        { stage := index
          language := stage.toolchain.name
          offset := common.length
          expected := relay.expectedOutput index
          actual := lastOutput [] (resultsOf shell stage directory written) })
  /-- A stage that cannot be written fails without a step. -/
  unprepared : (∀ directory written, ¬ Prepared config before index stage directory written) →
    ∃ context cause, outcome.failure = some (.io context cause)

theorem getElem?_next (relay : Relay) (index : Nat) :
    (relay.stages[(index + 1) % relay.length]?).map Stage.source
      = some (relay.expectedOutput index) := by
  have hlt : (index + 1) % relay.length < relay.stages.length := Nat.mod_lt _ relay.length_pos
  rw [List.getElem?_eq_getElem hlt]
  rfl

/-- An output passes when it is the source of the next stage. -/
theorem checkOutput_eq_none_iff {actual : Bytes} :
    checkOutput relay index stage actual = none ↔ actual = relay.expectedOutput index := by
  rw [checkOutput, Option.map_eq_none_iff, Payload.firstDivergence_eq]
  simp [eq_comm]

/-- Another output fails behind the beginning that it shares with that source. -/
theorem checkOutput_of_ne {actual : Bytes} (h : actual ≠ relay.expectedOutput index) :
    checkOutput relay index stage actual = some (.mismatch
      { stage := index
        language := stage.toolchain.name
        offset := (Payload.commonBeginning (relay.expectedOutput index) actual).length
        expected := relay.expectedOutput index
        actual }) := by
  rw [checkOutput, Payload.firstDivergence_eq, if_neg (Ne.symm h)]
  rfl

/-- What is said about a stage is true of it. -/
theorem judges_runStage (shell : ShellFunction) (config : Config) (relay : Relay)
    (before : Files) (index : Nat) (stage : Stage) :
    Judges shell config relay before index stage
      (runStage shell config relay before index stage).1
      (runStage shell config relay before index stage).2 where
  index_eq := rfl
  language_eq := rfl
  passes_iff := by
    constructor
    · intro hpasses
      by_cases hprepared : ∃ directory written, Prepared config before index stage directory written
      · obtain ⟨directory, written, hprepared⟩ := hprepared
        rw [runStage_of_prepared hprepared] at hpasses
        rcases allSucceed_or_firstFailure (resultsOf shell stage directory written)
          with hall | ⟨k, result, hfailure⟩
        · rw [runSteps_of_allSucceed hall] at hpasses
          refine ⟨directory, written, hprepared, hall, ?_⟩
          rw [getElem?_next, resultsOf, checkOutput_eq_none_iff.1 hpasses]
        · obtain ⟨step, -, hrun⟩ := runSteps_of_firstFailure [] hfailure
          rw [hrun] at hpasses
          cases hpasses
      · simp only [not_exists] at hprepared
        obtain ⟨context, cause, houtcome⟩ :=
          runStage_of_not_prepared shell relay hprepared
        rw [houtcome] at hpasses
        cases hpasses
    · rintro ⟨directory, written, hprepared, hall, hprinted⟩
      rw [getElem?_next, Option.some.injEq] at hprinted
      rw [runStage_of_prepared hprepared, runSteps_of_allSucceed hall]
      exact checkOutput_eq_none_iff.2 hprinted.symm
  firstFailure := by
    intro directory written k result hprepared hfailure
    obtain ⟨step, hstep, hrun⟩ := runSteps_of_firstFailure [] hfailure
    rw [runStage_of_prepared hprepared, hrun]
    exact ⟨⟨step, hstep, rfl⟩, rfl⟩
  mismatch := by
    intro directory written hprepared hall hprinted
    refine ⟨_, Payload.isCommonBeginning_commonBeginning _ _, ?_⟩
    rw [runStage_of_prepared hprepared, runSteps_of_allSucceed hall]
    exact checkOutput_of_ne hprinted
  unprepared := by
    intro hprepared
    obtain ⟨context, cause, houtcome⟩ :=
      runStage_of_not_prepared shell relay hprepared
    exact ⟨context, cause, by rw [houtcome]⟩

end QuineRelay.Verify
