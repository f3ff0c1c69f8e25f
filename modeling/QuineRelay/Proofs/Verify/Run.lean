import QuineRelay.Cli.Commands
import QuineRelay.Proofs.Text.Cutting
import QuineRelay.Proofs.Verify.Interleaving

/-!
# A verification is sound and complete

Each stage that the filter selects gets one outcome, in stage order, and the outcome says
how the stage fared. The exit code is zero when all of them pass. Stages that are apart
have the same outcomes on their own, one after the other, and next to each other in any
order of turns.
-/

namespace QuineRelay.Verify

variable {shell : ShellFunction} {config : Config} {relay : Relay} {files : Files}

/-! ## The stages that are selected -/

theorem selects_iff {filter : Option Text} {language : Text} :
    selects filter language = true ↔
      ∀ part, filter = some part → Text.lowercase part <:+: Text.lowercase language := by
  cases filter with
  | none => simp [selects]
  | some part => simp [selects, Text.holds_iff]

theorem mem_chosen {filter : Option Text} {stage : Stage} {index : Nat} :
    (stage, index) ∈ chosen filter relay ↔ relay.stages[index]? = some stage ∧
      ∀ part, filter = some part →
        Text.lowercase part <:+: Text.lowercase stage.toolchain.name := by
  rw [chosen, List.mem_filter, selects_iff, List.mem_zipIdx_iff_getElem?]

theorem mem_zipIdx_of_mem_chosen {filter : Option Text} {entry : Stage × Nat}
    (h : entry ∈ chosen filter relay) : entry ∈ relay.stages.zipIdx :=
  (List.mem_filter.1 h).1

/-- The stages are selected in stage order. -/
theorem pairwise_selected (filter : Option Text) (relay : Relay) :
    (selected filter relay).Pairwise (· < ·) := by
  have hindices : (relay.stages.zipIdx.map Prod.snd).Pairwise (· < ·) := by
    rw [List.zipIdx_map_snd]
    exact List.pairwise_lt_range'
  exact hindices.sublist (List.filter_sublist.map Prod.snd)

/-! ## Their outcomes -/

theorem index_runStages (shell : ShellFunction) (config : Config) (relay : Relay)
    (files : Files) (entries : List (Stage × Nat)) :
    (runStages shell config relay files entries).1.map Outcome.index = entries.map Prod.snd := by
  induction entries generalizing files with
  | nil => rfl
  | cons entry entries ih =>
      rw [runStages, List.map_cons, List.map_cons, ih]
      rfl

/-- A stage is verified on the files that the stages before it left. -/
theorem getElem?_runStages (shell : ShellFunction) (config : Config) (relay : Relay)
    (files : Files) {entries : List (Stage × Nat)} {k : Nat} {entry : Stage × Nat}
    (h : entries[k]? = some entry) :
    (runStages shell config relay files entries).1[k]?
      = some (runStage shell config relay (runStages shell config relay files (entries.take k)).2
        entry.2 entry.1).1 := by
  induction entries generalizing files k with
  | nil => cases h
  | cons first entries ih =>
      cases k with
      | zero =>
          obtain rfl := Option.some.inj h
          rfl
      | succ k => exact ih _ h

theorem exitCode_eq_zero_iff {summary : Summary} :
    summary.exitCode = 0 ↔ ∀ outcome ∈ summary.outcomes, outcome.failure = none := by
  have hle : summary.passed ≤ summary.outcomes.length := List.countP_le_length
  have hall : summary.passed = summary.outcomes.length ↔
      ∀ outcome ∈ summary.outcomes, outcome.failure = none := by
    rw [Summary.passed, List.countP_eq_length]
    simp only [Outcome.passed, Option.isNone_iff_eq_none]
  rw [← hall, Summary.exitCode, Summary.failed]
  split <;> omega

/-! ## Stages that are apart -/

/-- Stages that are apart have the outcomes that they have on their own. -/
theorem outcomes_run_of_areApart (hapart : AreApart shell config relay files) :
    (run shell config relay files).1.outcomes = (chosen config.filter relay).map
      fun entry => (runStage shell config relay files entry.2 entry.1).1 := by
  show (runStages shell config relay files (chosen config.filter relay)).1 = _
  apply runStages_eq_map hapart
  · exact fun entry => mem_zipIdx_of_mem_chosen
  · exact (pairwise_selected _ _).imp Nat.ne_of_lt
  · exact fun root hkeep => (hapart root hkeep).isClear
  · exact fun root hkeep entry hentry path hpath => rfl

/-- So they have when they have ended, whatever turns the others took. -/
theorem outcome?_play_of_mem_chosen (hapart : AreApart shell config relay files)
    {schedule : List (Stage × Nat)}
    (hschedule : ∀ entry ∈ schedule, entry ∈ chosen config.filter relay) {entry : Stage × Nat}
    (hentry : entry ∈ chosen config.filter relay) {outcome : Outcome}
    (h : Board.outcome? (Board.play shell config (.start files) schedule) relay entry
      = some outcome) :
    outcome = (runStage shell config relay files entry.2 entry.1).1 := by
  apply outcome?_play hapart _ (mem_zipIdx_of_mem_chosen hentry) h
  intro other hother
  exact mem_zipIdx_of_mem_chosen (hschedule other hother)

/-- All of them have ended when each got a turn for every step and two more. -/
theorem map_outcome?_play (hapart : AreApart shell config relay files)
    {schedule : List (Stage × Nat)}
    (hschedule : ∀ entry ∈ schedule, entry ∈ chosen config.filter relay)
    (hcount : ∀ entry ∈ chosen config.filter relay,
      entry.1.toolchain.steps.length + 2 ≤ schedule.count entry) :
    (chosen config.filter relay).map
        (Board.outcome? (Board.play shell config (.start files) schedule) relay)
      = (run shell config relay files).1.outcomes.map some := by
  rw [outcomes_run_of_areApart hapart, List.map_map]
  apply List.map_congr_left
  intro entry hentry
  have hmem : ∀ entry ∈ schedule, entry ∈ relay.stages.zipIdx := fun entry hentry =>
    mem_zipIdx_of_mem_chosen (hschedule entry hentry)
  obtain ⟨outcome, houtcome⟩ := exists_outcome?_play hmem (mem_zipIdx_of_mem_chosen hentry)
    (hcount entry hentry)
  rw [houtcome, outcome?_play_of_mem_chosen hapart hschedule hentry houtcome]
  rfl

/-- Stages that run at the same time give the summary that they give one after the other, if
they give one. -/
theorem eq_run_of_runScheduled (hapart : AreApart shell config relay files)
    {schedule : List (Stage × Nat)}
    (hschedule : ∀ entry ∈ schedule, entry ∈ chosen config.filter relay) {summary : Summary}
    (h : runScheduled shell config relay files schedule = some summary) :
    summary = (run shell config relay files).1 := by
  rw [runScheduled] at h
  split at h
  · obtain ⟨outcomes, houtcomes, rfl⟩ := Option.map_eq_some_iff.1 h
    rw [mapM_eq_some_iff] at houtcomes
    have halone : outcomes = (run shell config relay files).1.outcomes := by
      apply (List.map_inj_right fun _ _ => Option.some.inj).1
      rw [← houtcomes, outcomes_run_of_areApart hapart, List.map_map]
      apply List.map_congr_left
      intro entry hentry
      have hended : Board.outcome? (Board.play shell config (.start files) schedule) relay entry
          ∈ outcomes.map some := houtcomes ▸ List.mem_map_of_mem hentry
      obtain ⟨outcome, -, houtcome⟩ := List.mem_map.1 hended
      rw [← houtcome, outcome?_play_of_mem_chosen hapart hschedule hentry houtcome.symm]
      rfl
    rw [halone]
  · exact (Option.some.inj h).symm

/-- They give one when each of them gets a turn for every step and two more. -/
theorem runScheduled_eq (hapart : AreApart shell config relay files)
    {schedule : List (Stage × Nat)}
    (hschedule : ∀ entry ∈ schedule, entry ∈ chosen config.filter relay)
    (hcount : ∀ entry ∈ chosen config.filter relay,
      entry.1.toolchain.steps.length + 2 ≤ schedule.count entry) :
    runScheduled shell config relay files schedule = some (run shell config relay files).1 := by
  rw [runScheduled]
  split
  · rw [mapM_eq_some_iff.2 (map_outcome?_play hapart hschedule hcount)]
    rfl
  · rfl

/-! ## The command line -/

/-- `verify` succeeds just when its arguments can be read, its route composes, some stage
is selected, and every stage that is selected passes. -/
theorem exit_run_verify_eq_zero_iff (host : Cli.Host) (files : Files) (arguments : List Text) :
    (Cli.run host files ("verify" :: arguments)).exit = 0 ↔
      ∃ options relay, Cli.VerifyOptions.readFrom {} arguments = .ok options ∧
        Cli.composeRoute options.languages {} = .ok relay ∧
        selected options.config.filter relay ≠ [] ∧
        ∀ outcome ∈ (run host.shell options.config relay files).1.outcomes,
          outcome.failure = none := by
  have hcommand : ("verify" : Text) ≠ "generate" := by decide
  cases hoptions : Cli.VerifyOptions.readFrom {} arguments with
  | error e => simp [Cli.run, hoptions, Cli.Outcome.failing]
  | ok options =>
      have hverify : Cli.run host files ("verify" :: arguments)
          = Cli.verify host options files := by
        simp only [Cli.run, if_neg hcommand, if_true, hoptions]
      rw [hverify, Cli.verify]
      cases hrelay : Cli.composeRoute options.languages {} with
      | error e => simp [Cli.Outcome.failing, hrelay]
      | ok relay =>
          dsimp only
          cases hselected : selected options.config.filter relay with
          | nil => simp [Cli.Outcome.failing, hrelay, hselected]
          | cons index rest =>
              rw [if_neg (by simp)]
              simp [hrelay, hselected, ← exitCode_eq_zero_iff]

/-- A verification says of every stage that the filter selects how it fared, and nothing
else. It succeeds when all these stages pass, and the command line only if there are any.
Whether stages run one after the other or next to each other makes no difference to those
that are apart. -/
theorem verification_sound_and_complete (shell : ShellFunction) (config : Config) (relay : Relay)
    (files : Files) :
    -- The stages that are selected.
    (∀ stage index, (stage, index) ∈ chosen config.filter relay ↔
      relay.stages[index]? = some stage ∧ ∀ part, config.filter = some part →
        Text.lowercase part <:+: Text.lowercase stage.toolchain.name) ∧
    (selected config.filter relay).Pairwise (· < ·) ∧
    selected config.filter relay = (chosen config.filter relay).map Prod.snd ∧
    -- One outcome for each of them, in the same order, with a verdict.
    (run shell config relay files).1.outcomes.map Outcome.index = selected config.filter relay ∧
    (∀ (k : Nat) stage index, (chosen config.filter relay)[k]? = some (stage, index) →
      ∃ outcome after, (run shell config relay files).1.outcomes[k]? = some outcome ∧
        Judges shell config relay
          (runStages shell config relay files ((chosen config.filter relay).take k)).2
          index stage outcome after) ∧
    -- The steps of a stage run where its source is.
    (∀ before index stage directory written, Prepared config before index stage directory written →
      written.read directory stage.toolchain.file = .ok stage.source ∨
        written.find directory stage.toolchain.file = .ok .sink) ∧
    (config.keep = none → ∀ before index stage, Path.IsName stage.toolchain.file →
      ∃ written, Prepared config before index stage [] written) ∧
    -- Stages that are apart do not see each other, in whatever order they take their turns.
    (AreApart shell config relay files →
      (∀ (k : Nat) stage index, (chosen config.filter relay)[k]? = some (stage, index) →
        ∃ outcome after, (run shell config relay files).1.outcomes[k]? = some outcome ∧
          Judges shell config relay files index stage outcome after) ∧
      ∀ schedule : List (Stage × Nat),
        (∀ entry ∈ schedule, entry ∈ chosen config.filter relay) →
        (∀ entry ∈ chosen config.filter relay,
          entry.1.toolchain.steps.length + 2 ≤ schedule.count entry) →
        (chosen config.filter relay).map
            (Board.outcome? (Board.play shell config (.start files) schedule) relay)
          = (run shell config relay files).1.outcomes.map some) ∧
    -- The exit codes.
    ((run shell config relay files).1.exitCode = 0 ↔
      ∀ outcome ∈ (run shell config relay files).1.outcomes, outcome.failure = none) ∧
    ∀ (host : Cli.Host) (arguments : List Text),
      (Cli.run host files ("verify" :: arguments)).exit = 0 ↔
        ∃ options relay, Cli.VerifyOptions.readFrom {} arguments = .ok options ∧
          Cli.composeRoute options.languages {} = .ok relay ∧
          selected options.config.filter relay ≠ [] ∧
          ∀ outcome ∈ (run host.shell options.config relay files).1.outcomes,
            outcome.failure = none := by
  refine ⟨fun stage index => mem_chosen, pairwise_selected _ _, rfl, index_runStages _ _ _ _ _,
    fun k stage index hk => ?_, fun before index stage directory written => Prepared.read_eq,
    fun hkeep before index stage hfile => exists_prepared_of_scratch hkeep hfile before index,
    fun hapart => ?_, exitCode_eq_zero_iff,
    fun host arguments => exit_run_verify_eq_zero_iff host files arguments⟩
  · exact ⟨_, _, getElem?_runStages shell config relay files hk,
      judges_runStage shell config relay _ index stage⟩
  · refine ⟨fun k stage index hk => ?_, fun schedule hschedule hcount => ?_⟩
    · refine ⟨_, _, ?_, judges_runStage shell config relay files index stage⟩
      rw [outcomes_run_of_areApart hapart, List.getElem?_map, hk, Option.map_some]
    · exact map_outcome?_play hapart hschedule hcount

/-- A shell that prints every command. -/
def echoShell : ShellFunction := fun files _ command =>
  { status := .code 0, stdout := Utf8.encode command, stderr := [], files }

/-- Two stages whose commands, printed, are the sources of each other. -/
def echoRelay : Relay where
  stages :=
    [⟨⟨"Alpha", "first", [⟨.run, "omega {src}", none⟩]⟩, Utf8.encode "alpha second"⟩,
      ⟨⟨"Omega", "second", [⟨.run, "alpha {src}", none⟩]⟩, Utf8.encode "omega first"⟩]
  ne_nil := by decide

theorem isLocal_echoShell : IsLocal echoShell where
  status_eq _ _ _ _ _ := rfl
  stdout_eq _ _ _ _ _ := rfl
  stderr_eq _ _ _ _ _ := rfl
  below _ _ _ _ hagree := hagree
  beyond _ _ _ _ _ := rfl

/-- Both stages are selected in any case of their letters. They are apart below a root in
the directory above, and pass when they take turns. -/
theorem verification_sound_and_complete_echo :
    (run echoShell { filter := some "A", keep := some "../kept" } echoRelay Files.empty).1.exitCode
        = 0 ∧
      (chosen (some "A") echoRelay).map (Board.outcome? (Board.play echoShell
          { filter := some "A", keep := some "../kept" } (.start Files.empty)
          ((echoRelay.stages.zipIdx ++ echoRelay.stages.zipIdx.reverse ++ echoRelay.stages.zipIdx)))
          echoRelay)
        = [some ⟨0, "Alpha", none⟩, some ⟨1, "Omega", none⟩] := by
  obtain ⟨-, -, -, -, -, -, -, hapart, hexit, -⟩ := verification_sound_and_complete echoShell
    { filter := some "A", keep := some "../kept" } echoRelay Files.empty
  have hareApart : AreApart echoShell { filter := some "A", keep := some "../kept" } echoRelay
      Files.empty := by
    rintro root hroot
    obtain rfl := Option.some.inj hroot
    exact ⟨isLocal_echoShell, ⟨_, rfl⟩, by decide, by unfold IsApart; decide⟩
  have hrun : (run echoShell { filter := some "A", keep := some "../kept" } echoRelay
      Files.empty).1.outcomes = [⟨0, "Alpha", none⟩, ⟨1, "Omega", none⟩] := by decide +kernel
  refine ⟨hexit.2 ?_, ?_⟩
  · rw [hrun]
    decide
  · rw [(hapart hareApart).2 _ (by decide +kernel) (by decide +kernel), hrun]
    rfl

end QuineRelay.Verify
