import QuineRelay.CommandResult
import QuineRelay.Payload
import QuineRelay.Relay
import QuineRelay.Text.Letters
import QuineRelay.Verify.Failure

/-!
# Verifying a relay

Each selected stage is run on its own: its source is written into a directory,
its steps are run there in order, and what the last step prints has to be the
source of the next stage. A stage that fails does not stop the others.

Here the stages run one after the other. Every stage has a directory to itself, so
the order in which they run makes no difference to any of them; how they run at the
same time is laid out in `QuineRelay.Verify.Board`.
-/

namespace QuineRelay.Verify

/-- What a verification may choose. -/
structure Config where
  /-- Verify only stages whose language has this in its name, in any case. -/
  filter : Option Text := none
  /-- Run stages at the same time. -/
  parallel : Bool := true
  /-- Keep the directories of the stages below this one. -/
  keep : Option Text := none
  deriving DecidableEq, Repr

/-- The result for one stage: it passes unless there is a failure. -/
structure Outcome where
  index : Nat
  language : Text
  failure : Option Failure
  deriving DecidableEq, Repr

/-- Whether the stage passed. -/
def Outcome.passed (outcome : Outcome) : Bool :=
  outcome.failure.isNone

/-- The results of all stages that were verified, in stage order. -/
structure Summary where
  outcomes : List Outcome
  deriving DecidableEq, Repr

namespace Summary

/-- Number of stages that passed. -/
def passed (summary : Summary) : Nat :=
  summary.outcomes.countP Outcome.passed

/-- Number of stages that failed. -/
def failed (summary : Summary) : Nat :=
  summary.outcomes.length - summary.passed

/-- The exit code of a verification: zero when no stage failed. -/
def exitCode (summary : Summary) : Nat :=
  if 0 < summary.failed then 1 else 0

end Summary

/-- Whether a filter selects a language. -/
def selects (filter : Option Text) (language : Text) : Bool :=
  match filter with
  | none => true
  | some part => Text.holds (Text.lowercase part) (Text.lowercase language)

/-- The stages that a filter selects, each with its index. -/
def chosen (filter : Option Text) (relay : Relay) : List (Stage × Nat) :=
  relay.stages.zipIdx.filter fun entry => selects filter entry.1.toolchain.name

/-- The indices of the stages that a filter selects. -/
def selected (filter : Option Text) (relay : Relay) : List Nat :=
  (chosen filter relay).map Prod.snd

/-- The character of a directory name for a character of a language name, if
there is one. -/
def directoryChar? (c : Char) : Option Char :=
  if c = '+' then some 'p'
  else if c = '#' then some 's'
  else if c = ' ' then some '-'
  else if c.isAlphanum then some c.toLower
  else none

/-- The name of a stage's directory: its index in two places or more, and its
language in small letters. -/
def directoryName (index : Nat) (language : Text) : Text :=
  Text.decimalPadded 2 index ++ '-' :: language.filterMap directoryChar?

/-- Runs steps in a directory until one does not succeed. The result is the
output of the last step, `printed` when there is none, and the files
afterwards. -/
def runSteps (shell : ShellFunction) (toolchain : Toolchain) (directory : Path) (printed : Bytes)
    (files : Files) : List Step → Except Failure Bytes × Files
  | [] => (.ok printed, files)
  | step :: rest =>
    let command := step.commandFor toolchain.file
    let result := shell files directory command
    if result.status.succeeded then
      runSteps shell toolchain directory result.stdout result.files rest
    else
      (.error (.step toolchain.name command result.status (Utf8.decodeLossy result.stderr)),
        result.files)

/-- Writes the source of a stage into the directory that a text names. -/
def writeSource (files : Files) (directory : Text) (stage : Stage) : Except Failure Files :=
  let text := Path.joinText directory stage.toolchain.file
  match files.write [] text stage.source with
  | .ok files => .ok files
  | .error e => .error (.io ("writing " ++ text) e.message)

/-- Runs a stage in a directory of its own that is not kept. -/
def runInScratch (shell : ShellFunction) (stage : Stage) : Except Failure Bytes :=
  match writeSource Files.empty [] stage with
  | .error failure => .error failure
  | .ok files => (runSteps shell stage.toolchain [] [] files stage.toolchain.steps).1

/-- The text of the directory of a stage that is kept below `root`. -/
def keptText (root : Text) (index : Nat) (stage : Stage) : Text :=
  Path.joinText root (directoryName index stage.toolchain.name)

/-- Writes the source of a stage into its directory below `root`, which is made if
necessary. The result is the place of the directory, and the files afterwards. -/
def prepareKept (files : Files) (root : Text) (index : Nat) (stage : Stage) :
    Except Failure Path × Files :=
  match files.makeDirectories [] (keptText root index stage) with
  | .error e => (.error (.io ("creating " ++ keptText root index stage) e.message), files)
  | .ok made =>
    match writeSource made (keptText root index stage) stage with
    | .error failure => (.error failure, made)
    | .ok written =>
      match written.resolve [] (keptText root index stage) with
      | .error e => (.error (.io ("creating " ++ keptText root index stage) e.message), written)
      | .ok path => (.ok path, written)

/-- Runs a stage in its directory below `root`, and keeps the directory. -/
def runKept (shell : ShellFunction) (files : Files) (root : Text) (index : Nat) (stage : Stage) :
    Except Failure Bytes × Files :=
  match prepareKept files root index stage with
  | (.error failure, files) => (.error failure, files)
  | (.ok path, files) => runSteps shell stage.toolchain path [] files stage.toolchain.steps

/-- Compares what stage `index` printed with the source of the next stage. -/
def checkOutput (relay : Relay) (index : Nat) (stage : Stage) (actual : Bytes) :
    Option Failure :=
  let expected := relay.expectedOutput index
  (Payload.firstDivergence expected actual).map fun offset =>
    .mismatch { stage := index, language := stage.toolchain.name, offset, expected, actual }

/-- Why a stage does not pass, by the result of its steps. -/
def failureOf (relay : Relay) (index : Nat) (stage : Stage) (result : Except Failure Bytes) :
    Option Failure :=
  match result with
  | .error failure => some failure
  | .ok actual => checkOutput relay index stage actual

/-- Verifies one stage, and gives the files afterwards. -/
def runStage (shell : ShellFunction) (config : Config) (relay : Relay) (files : Files)
    (index : Nat) (stage : Stage) : Outcome × Files :=
  let (result, files) := match config.keep with
    | none => (runInScratch shell stage, files)
    | some root => runKept shell files root index stage
  ({ index
     language := stage.toolchain.name
     failure := failureOf relay index stage result }, files)

/-- Verifies stages one after the other. -/
def runStages (shell : ShellFunction) (config : Config) (relay : Relay) (files : Files) :
    List (Stage × Nat) → List Outcome × Files
  | [] => ([], files)
  | (stage, index) :: rest =>
    let (outcome, files) := runStage shell config relay files index stage
    let (outcomes, files) := runStages shell config relay files rest
    (outcome :: outcomes, files)

/-- Verifies every stage that the filter selects. -/
def run (shell : ShellFunction) (config : Config) (relay : Relay) (files : Files) :
    Summary × Files :=
  let (outcomes, files) := runStages shell config relay files (chosen config.filter relay)
  ({ outcomes }, files)

end QuineRelay.Verify
