import QuineRelay.Proofs.Verify.Kept
import QuineRelay.Proofs.Verify.Verdict
import QuineRelay.Verify.Board

/-!
# Stages that run at the same time

Stages that run next to each other take turns in any order. Whatever the order, a stage that
has ended has the result that it has on its own. What carries this over a whole run is what
each stage would end with if all others stopped: no turn changes it, neither a turn of the stage
itself nor one of another, which works in a directory of its own.
-/

namespace QuineRelay.Verify

/-! ## On its own -/

variable {shell : ShellFunction} {config : Config} {relay : Relay} {files others : Files}
  {index : Nat} {stage : Stage} {progress : Progress} {root : Text}

/-- What a stage ends with when all others stop. -/
def finish (shell : ShellFunction) (config : Config) (files : Files) (index : Nat)
    (stage : Stage) : Progress → Except Failure Bytes × Files
  | .waiting =>
    match config.keep with
    | none => (runInScratch shell stage, files)
    | some root => runKept shell files root index stage
  | .running (some own) place printed steps =>
    ((runSteps shell stage.toolchain place printed own steps).1, files)
  | .running none place printed steps =>
    runSteps shell stage.toolchain place printed files steps
  | .ended result => (result, files)

/-- A stage is verified by letting it end. -/
theorem runStage_eq_finish (shell : ShellFunction) (config : Config) (relay : Relay)
    (files : Files) (index : Nat) (stage : Stage) :
    runStage shell config relay files index stage
      = ({ index
           language := stage.toolchain.name
           failure := failureOf relay index stage
            (finish shell config files index stage .waiting).1 },
        (finish shell config files index stage .waiting).2) := by
  cases hkeep : config.keep with
  | none => simp only [runStage, finish, hkeep]
  | some root => simp only [runStage, finish, hkeep]

/-- A turn of a stage does not change what it ends with. -/
theorem finish_advance (shell : ShellFunction) (config : Config) (files : Files) (index : Nat)
    (stage : Stage) (progress : Progress) :
    finish shell config (advance shell config files index stage progress).2 index stage
        (advance shell config files index stage progress).1
      = finish shell config files index stage progress := by
  cases progress with
  | waiting =>
      rw [advance, prepare, finish]
      cases config.keep with
      | none =>
          simp only [runInScratch]
          cases writeSource Files.empty [] stage <;> rfl
      | some root =>
          simp only [runKept]
          rcases prepareKept files root index stage with ⟨_ | place, later⟩ <;> rfl
  | running own place printed steps =>
      cases steps with
      | nil => cases own <;> rfl
      | cons step rest =>
          cases own with
          | none =>
              cases hok : (shell files place
                  (step.commandFor stage.toolchain.file)).status.succeeded with
              | true => simp [advance, finish, runSteps, hok]
              | false => simp [advance, finish, runSteps, hok]
          | some own =>
              cases hok : (shell own place
                  (step.commandFor stage.toolchain.file)).status.succeeded with
              | true => simp [advance, finish, runSteps, hok]
              | false => simp [advance, finish, runSteps, hok]
  | ended result => rfl

/-! ## Next to the others -/

/-- The steps of a stage run in files of its own, or in the directory that is kept for it. -/
def InPlace (config : Config) (index : Nat) (stage : Stage) : Progress → Prop
  | .running own place _ _ =>
    match config.keep with
    | none => own.isSome = true
    | some root => own = none ∧ place = site root index stage
  | _ => True

/-- What lets the stages of a relay run next to each other in directories below `root`: the
shell works in one directory at a time, the root can be made and is reached without going
through the directory of a stage, and every source has the name of a file. -/
structure KeepsApart (shell : ShellFunction) (root : Text) (relay : Relay) (files : Files) :
    Prop where
  isLocal : IsLocal shell
  usable : ∃ made, files.makeDirectories [] root = .ok made
  isName : ∀ stage ∈ relay.stages, Path.IsName stage.toolchain.file
  isApart : ∀ entry ∈ relay.stages.zipIdx, IsApart root entry.2 entry.1

/-- Stages that are not kept are apart anyway. -/
def AreApart (shell : ShellFunction) (config : Config) (relay : Relay) (files : Files) : Prop :=
  ∀ root, config.keep = some root → KeepsApart shell root relay files

theorem KeepsApart.isClear (h : KeepsApart shell root relay files) : IsClear files root := by
  obtain ⟨made, hmade⟩ := h.usable
  exact Files.exists_makeFrom_iff.1 ⟨made, Files.makeDirectories_eq_ok_iff.1 hmade⟩

theorem KeepsApart.isName_of_mem (h : KeepsApart shell root relay files) {entry : Stage × Nat}
    (hentry : entry ∈ relay.stages.zipIdx) : Path.IsName entry.1.toolchain.file :=
  h.isName entry.1 (List.fst_mem_of_mem_zipIdx hentry)

/-- A stage that is not kept ends alike whatever the shared files are. -/
theorem finish_of_scratch (hkeep : config.keep = none)
    (hplace : InPlace config index stage progress) :
    (finish shell config files index stage progress).1
      = (finish shell config others index stage progress).1 := by
  cases progress with
  | waiting => simp only [finish, hkeep]
  | running own place printed steps =>
      simp only [InPlace, hkeep] at hplace
      obtain ⟨own, rfl⟩ := Option.isSome_iff_exists.1 hplace
      rfl
  | ended result => rfl

/-- A stage that is kept ends alike while its directory is the same. -/
theorem finish_of_kept (hkeep : config.keep = some root) (hlocal : IsLocal shell)
    (hclear : IsClear files root) (hothers : IsClear others root)
    (hapart : IsApart root index stage) (hfile : Path.IsName stage.toolchain.file)
    (hagree : Files.AgreeBelow (site root index stage) files others)
    (hplace : InPlace config index stage progress) :
    (finish shell config files index stage progress).1
      = (finish shell config others index stage progress).1 := by
  cases progress with
  | waiting =>
      obtain ⟨hresult, hbelow⟩ := prepareKept_agree hclear hothers hapart hfile hagree
      have hsite := @eq_site_of_prepareKept files root index stage
      simp only [finish, hkeep, runKept]
      generalize prepareKept files root index stage = prepared at *
      generalize prepareKept others root index stage = prepared' at *
      obtain ⟨result, written⟩ := prepared
      obtain ⟨result', written'⟩ := prepared'
      obtain rfl : result = result' := hresult
      cases result with
      | error failure => rfl
      | ok path =>
          obtain rfl := hsite rfl
          exact hlocal.runSteps_eq hbelow
  | running own place printed steps =>
      simp only [InPlace, hkeep] at hplace
      obtain ⟨rfl, rfl⟩ := hplace
      exact hlocal.runSteps_eq hagree
  | ended result => rfl

/-- A turn leaves the steps of a stage where they run. -/
theorem inPlace_advance (hplace : InPlace config index stage progress) :
    InPlace config index stage (advance shell config files index stage progress).1 := by
  cases progress with
  | waiting =>
      rw [advance, prepare]
      cases hkeep : config.keep with
      | none =>
          simp only
          cases writeSource Files.empty [] stage with
          | error failure => trivial
          | ok own => simp [InPlace, hkeep]
      | some root =>
          have hsite := @eq_site_of_prepareKept files root index stage
          simp only
          generalize prepareKept files root index stage = prepared at *
          rcases prepared with ⟨_ | path, later⟩
          · trivial
          · simpa [InPlace, hkeep] using hsite rfl
  | running own place printed steps =>
      cases steps with
      | nil => trivial
      | cons step rest =>
          rw [advance]
          split
          · simp only [InPlace] at hplace ⊢
            split at hplace
            · rename_i hkeep
              simpa [hkeep] using hplace
            · rename_i root hkeep
              simpa [hkeep] using hplace
          · trivial
  | ended result => trivial

/-- A turn of a stage that is kept changes only its directory. -/
theorem changes_advance (hkeep : config.keep = some root) (hlocal : IsLocal shell)
    (hclear : IsClear files root) (hapart : IsApart root index stage)
    (hfile : Path.IsName stage.toolchain.file) (hplace : InPlace config index stage progress) :
    Changes root index stage files (advance shell config files index stage progress).2 := by
  cases progress with
  | waiting =>
      have hchanges := changes_prepareKept hclear hapart hfile
      rw [advance, prepare]
      simp only [hkeep]
      generalize prepareKept files root index stage = prepared at *
      rcases prepared with ⟨_ | path, later⟩ <;> exact hchanges
  | running own place printed steps =>
      simp only [InPlace, hkeep] at hplace
      obtain ⟨rfl, rfl⟩ := hplace
      cases steps with
      | nil => exact .refl files
      | cons step rest =>
          rw [advance]
          split
          · exact fun path hpath => .inl (hlocal.beyond files _ _ path hpath)
          · exact fun path hpath => .inl (hlocal.beyond files _ _ path hpath)
  | ended result => exact .refl files

/-! ## Every order -/

/-- Every stage would end with what it ends with on its own. -/
structure Board.Sound (shell : ShellFunction) (config : Config) (relay : Relay) (files : Files)
    (board : Board) : Prop where
  isClear : ∀ root, config.keep = some root → IsClear board.files root
  inPlace : ∀ entry ∈ relay.stages.zipIdx,
    InPlace config entry.2 entry.1 (board.progress entry.2)
  finish_eq : ∀ entry ∈ relay.stages.zipIdx,
    (finish shell config board.files entry.2 entry.1 (board.progress entry.2)).1
      = (finish shell config files entry.2 entry.1 .waiting).1

variable {board : Board}

theorem Board.sound_start (hapart : AreApart shell config relay files) :
    Board.Sound shell config relay files (Board.start files) where
  isClear root hkeep := (hapart root hkeep).isClear
  inPlace _ _ := trivial
  finish_eq _ _ := rfl

/-- Stages of one index are the same. -/
theorem eq_of_mem_zipIdx {stages : List Stage} {entry other : Stage × Nat}
    (hentry : entry ∈ stages.zipIdx) (hother : other ∈ stages.zipIdx) (h : entry.2 = other.2) :
    entry = other := by
  have hstage := List.mem_zipIdx_iff_getElem?.1 hentry
  have hstage' := List.mem_zipIdx_iff_getElem?.1 hother
  rw [h, hstage'] at hstage
  exact Prod.ext (Option.some.inj hstage).symm h

theorem Board.progress_turn (shell : ShellFunction) (config : Config) (board : Board)
    (entry : Stage × Nat) :
    (Board.turn shell config board entry).progress entry.2
      = (advance shell config board.files entry.2 entry.1 (board.progress entry.2)).1 :=
  if_pos rfl

theorem Board.progress_turn_of_ne {entry other : Stage × Nat} (h : other.2 ≠ entry.2) :
    (Board.turn shell config board entry).progress other.2 = board.progress other.2 :=
  if_neg h

/-- A turn of any stage leaves all of them where they run. -/
theorem Board.inPlace_turn {entry : Stage × Nat} (hentry : entry ∈ relay.stages.zipIdx)
    (h : ∀ other ∈ relay.stages.zipIdx, InPlace config other.2 other.1 (board.progress other.2)) :
    ∀ other ∈ relay.stages.zipIdx,
      InPlace config other.2 other.1 ((Board.turn shell config board entry).progress other.2) := by
  intro other hother
  by_cases hindex : other.2 = entry.2
  · obtain rfl := eq_of_mem_zipIdx hother hentry hindex
    rw [Board.progress_turn]
    exact inPlace_advance (h other hother)
  · rw [Board.progress_turn_of_ne hindex]
    exact h other hother

/-- A turn of any stage keeps this. -/
theorem Board.Sound.turn (h : Board.Sound shell config relay files board)
    (hapart : AreApart shell config relay files) {entry : Stage × Nat}
    (hentry : entry ∈ relay.stages.zipIdx) :
    Board.Sound shell config relay files (Board.turn shell config board entry) := by
  have hkept (root : Text) (hkeep : config.keep = some root) : Changes root entry.2 entry.1
      board.files (Board.turn shell config board entry).files :=
    changes_advance hkeep (hapart root hkeep).isLocal (h.isClear root hkeep)
      ((hapart root hkeep).isApart entry hentry) ((hapart root hkeep).isName_of_mem hentry)
      (h.inPlace entry hentry)
  have hclear (root : Text) (hkeep : config.keep = some root) :
      IsClear (Board.turn shell config board entry).files root :=
    (hkept root hkeep).isClear ((hapart root hkeep).isApart entry hentry) (h.isClear root hkeep)
  refine ⟨hclear, Board.inPlace_turn hentry h.inPlace, fun other hother => ?_⟩
  by_cases hindex : other.2 = entry.2
  · obtain rfl := eq_of_mem_zipIdx hother hentry hindex
    rw [← h.finish_eq other hother, ← finish_advance shell config board.files other.2 other.1,
      Board.progress_turn]
    rfl
  · rw [← h.finish_eq other hother, Board.progress_turn_of_ne hindex]
    cases hkeep : config.keep with
    | none => exact finish_of_scratch hkeep (h.inPlace other hother)
    | some root =>
        have hapart := hapart root hkeep
        have hunseen : Files.AgreeBelow (site root other.2 other.1)
            (Board.turn shell config board entry).files board.files :=
          (hkept root hkeep).agreeBelow (Ne.symm hindex) (hapart.isApart other hother)
        exact finish_of_kept hkeep hapart.isLocal (hclear root hkeep) (h.isClear root hkeep)
          (hapart.isApart other hother) (hapart.isName_of_mem hother) hunseen
          (h.inPlace other hother)

theorem Board.Sound.play (h : Board.Sound shell config relay files board)
    (hapart : AreApart shell config relay files) {schedule : List (Stage × Nat)}
    (hschedule : ∀ entry ∈ schedule, entry ∈ relay.stages.zipIdx) :
    Board.Sound shell config relay files (Board.play shell config board schedule) := by
  induction schedule generalizing board with
  | nil => exact h
  | cons entry schedule ih =>
      obtain ⟨hentry, hschedule⟩ := List.forall_mem_cons.1 hschedule
      exact ih (h.turn hapart hentry) hschedule

/-- A stage that has ended, in whatever order the stages took their turns, has the outcome
that it has on its own. -/
theorem outcome?_play (hapart : AreApart shell config relay files)
    {schedule : List (Stage × Nat)} (hschedule : ∀ entry ∈ schedule, entry ∈ relay.stages.zipIdx)
    {entry : Stage × Nat} (hentry : entry ∈ relay.stages.zipIdx) {outcome : Outcome}
    (h : Board.outcome? (Board.play shell config (.start files) schedule) relay entry
      = some outcome) :
    outcome = (runStage shell config relay files entry.2 entry.1).1 := by
  have hsound := (Board.sound_start hapart).play hapart hschedule
  have hfinish := hsound.finish_eq entry hentry
  rw [Board.outcome?] at h
  split at h
  · rename_i result hended
    rw [hended] at hfinish
    rw [← Option.some.inj h, runStage_eq_finish, ← hfinish]
    rfl
  · cases h

/-- Turns that a stage can still take before it has ended. -/
def remaining (stage : Stage) : Progress → Nat
  | .waiting => stage.toolchain.steps.length + 2
  | .running _ _ _ steps => steps.length + 1
  | .ended _ => 0

theorem remaining_advance (shell : ShellFunction) (config : Config) (files : Files) (index : Nat)
    (stage : Stage) (progress : Progress) :
    remaining stage (advance shell config files index stage progress).1
      ≤ remaining stage progress - 1 := by
  cases progress with
  | waiting =>
      rw [advance, prepare]
      cases config.keep with
      | none =>
          simp only
          cases writeSource Files.empty [] stage <;> simp [remaining]
      | some root =>
          simp only
          rcases prepareKept files root index stage with ⟨_ | path, later⟩ <;> simp [remaining]
  | running own place printed steps =>
      cases steps with
      | nil => simp [advance, remaining]
      | cons step rest =>
          rw [advance]
          split <;> simp [remaining]
  | ended result => simp [advance, remaining]

theorem remaining_play (shell : ShellFunction) (config : Config) (board : Board)
    {schedule : List (Stage × Nat)}
    (hschedule : ∀ entry ∈ schedule, entry ∈ relay.stages.zipIdx) {entry : Stage × Nat}
    (hentry : entry ∈ relay.stages.zipIdx) :
    remaining entry.1 ((Board.play shell config board schedule).progress entry.2)
      ≤ remaining entry.1 (board.progress entry.2) - schedule.count entry := by
  induction schedule generalizing board with
  | nil => exact Nat.le_refl _
  | cons other schedule ih =>
      obtain ⟨hother, hschedule⟩ := List.forall_mem_cons.1 hschedule
      have hrest := @ih (Board.turn shell config board other) hschedule
      rw [Board.play, List.foldl_cons, ← Board.play, List.count_cons]
      by_cases hindex : entry.2 = other.2
      · obtain rfl := eq_of_mem_zipIdx hentry hother hindex
        have hturn := remaining_advance shell config board.files entry.2 entry.1
          (board.progress entry.2)
        rw [Board.progress_turn] at hrest
        simp only [beq_self_eq_true, if_true]
        omega
      · have hne : (other == entry) = false := beq_eq_false_iff_ne.2 fun heq => hindex (heq ▸ rfl)
        rw [Board.progress_turn_of_ne hindex] at hrest
        simpa only [hne, Bool.false_eq_true, if_false, Nat.add_zero] using hrest

/-- A stage that gets a turn for every step and two more has ended. -/
theorem exists_outcome?_play {schedule : List (Stage × Nat)}
    (hschedule : ∀ entry ∈ schedule, entry ∈ relay.stages.zipIdx) {entry : Stage × Nat}
    (hentry : entry ∈ relay.stages.zipIdx)
    (hcount : entry.1.toolchain.steps.length + 2 ≤ schedule.count entry) :
    ∃ outcome, Board.outcome? (Board.play shell config (.start files) schedule) relay entry
      = some outcome := by
  have hremaining := remaining_play shell config (.start files) hschedule hentry
  have hstart : remaining entry.1 ((Board.start files).progress entry.2)
      = entry.1.toolchain.steps.length + 2 := rfl
  rw [Board.outcome?]
  cases hprogress : (Board.play shell config (.start files) schedule).progress entry.2 with
  | waiting =>
      rw [hprogress, remaining] at hremaining
      omega
  | running own place printed steps =>
      rw [hprogress, remaining] at hremaining
      omega
  | ended result => exact ⟨_, rfl⟩

/-! ## One after the other -/

theorem changes_runKept (hlocal : IsLocal shell) (hclear : IsClear files root)
    (hapart : IsApart root index stage) (hfile : Path.IsName stage.toolchain.file) :
    Changes root index stage files (runKept shell files root index stage).2 := by
  have hchanges := changes_prepareKept hclear hapart hfile
  have hsite := @eq_site_of_prepareKept files root index stage
  rw [runKept]
  generalize prepareKept files root index stage = prepared at *
  rcases prepared with ⟨_ | path, written⟩
  · exact hchanges
  · obtain rfl := hsite rfl
    exact hchanges.trans fun path hpath => .inl (hlocal.entry?_runSteps hpath)

/-- Stages that are verified one after the other have the outcomes that they have on their
own. -/
theorem runStages_eq_map (hapart : AreApart shell config relay files)
    {entries : List (Stage × Nat)} (hentries : ∀ entry ∈ entries, entry ∈ relay.stages.zipIdx)
    (hindices : (entries.map Prod.snd).Nodup) {before : Files}
    (hclear : ∀ root, config.keep = some root → IsClear before root)
    (hagree : ∀ root, config.keep = some root → ∀ entry ∈ entries,
      Files.AgreeBelow (site root entry.2 entry.1) before files) :
    (runStages shell config relay before entries).1
      = entries.map fun entry => (runStage shell config relay files entry.2 entry.1).1 := by
  induction entries generalizing before with
  | nil => rfl
  | cons entry entries ih =>
      obtain ⟨hentry, hentries⟩ := List.forall_mem_cons.1 hentries
      rw [List.map_cons, List.nodup_cons] at hindices
      have hfinish : (finish shell config before entry.2 entry.1 .waiting).1
          = (finish shell config files entry.2 entry.1 .waiting).1 := by
        cases hkeep : config.keep with
        | none => exact finish_of_scratch hkeep trivial
        | some root =>
            exact finish_of_kept hkeep (hapart root hkeep).isLocal (hclear root hkeep)
              (hapart root hkeep).isClear ((hapart root hkeep).isApart entry hentry)
              ((hapart root hkeep).isName_of_mem hentry)
              (hagree root hkeep entry List.mem_cons_self) trivial
      have hchanges (root : Text) (hkeep : config.keep = some root) :
          Changes root entry.2 entry.1 before
            (finish shell config before entry.2 entry.1 .waiting).2 := by
        simp only [finish, hkeep]
        exact changes_runKept (hapart root hkeep).isLocal (hclear root hkeep)
          ((hapart root hkeep).isApart entry hentry) ((hapart root hkeep).isName_of_mem hentry)
      have hrest := @ih hentries hindices.2 (finish shell config before entry.2 entry.1 .waiting).2
        (fun root hkeep => (hchanges root hkeep).isClear ((hapart root hkeep).isApart entry hentry)
          (hclear root hkeep))
        (fun root hkeep other hother path hpath => by
          have hne : entry.2 ≠ other.2 := fun heq =>
            hindices.1 (heq ▸ List.mem_map_of_mem hother)
          rw [(hchanges root hkeep).agreeBelow hne ((hapart root hkeep).isApart other
            (hentries other hother)) path hpath]
          exact hagree root hkeep other (List.mem_cons_of_mem entry hother) path hpath)
      rw [runStages, runStage_eq_finish, List.map_cons, runStage_eq_finish shell config relay files]
      dsimp only
      rw [hrest, hfinish]

end QuineRelay.Verify
