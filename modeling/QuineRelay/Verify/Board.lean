import QuineRelay.Verify.Runner

/-!
# Stages that run at the same time

Stages that run next to each other take turns: each writes its source, then runs its
steps one by one, in any order among the stages. A schedule says which stage has the
next turn, and nothing is assumed of it: it may favour a stage, or stop early. No stage
waits for another, so a board of how far each has come is all the state there is.
-/

namespace QuineRelay.Verify

/-- How far a stage has come. A stage that is not kept has files of its own. -/
inductive Progress where
  | waiting
  | running (own : Option Files) (place : Path) (printed : Bytes) (steps : List Step)
  | ended (result : Except Failure Bytes)

/-- The first turn of a stage writes its source. -/
def prepare (config : Config) (files : Files) (index : Nat) (stage : Stage) : Progress × Files :=
  match config.keep with
  | none =>
    match writeSource Files.empty [] stage with
    | .error failure => (.ended (.error failure), files)
    | .ok own => (.running (some own) [] [] stage.toolchain.steps, files)
  | some root =>
    match prepareKept files root index stage with
    | (.error failure, files) => (.ended (.error failure), files)
    | (.ok place, files) => (.running none place [] stage.toolchain.steps, files)

/-- A turn of a stage: writing its source, a step, or seeing that there is none left. -/
def advance (shell : ShellFunction) (config : Config) (files : Files) (index : Nat)
    (stage : Stage) : Progress → Progress × Files
  | .waiting => prepare config files index stage
  | .running _ _ printed [] => (.ended (.ok printed), files)
  | .running own place _ (step :: rest) =>
    let command := step.commandFor stage.toolchain.file
    let result := shell (own.getD files) place command
    let files := if own.isSome then files else result.files
    if result.status.succeeded then
      (.running (own.map fun _ => result.files) place result.stdout rest, files)
    else
      (.ended (.error (.step stage.toolchain.name command result.status
        (Utf8.decodeLossy result.stderr))), files)
  | .ended result => (.ended result, files)

/-- All stages with how far each has come, and the files that they share. -/
structure Board where
  files : Files
  progress : Nat → Progress

namespace Board

/-- No stage has had a turn. -/
def start (files : Files) : Board :=
  { files, progress := fun _ => .waiting }

/-- One stage takes a turn. -/
def turn (shell : ShellFunction) (config : Config) (board : Board) (entry : Stage × Nat) : Board :=
  let next := advance shell config board.files entry.2 entry.1 (board.progress entry.2)
  { files := next.2
    progress := fun index => if index = entry.2 then next.1 else board.progress index }

/-- The stages take turns in the order of a schedule. -/
def play (shell : ShellFunction) (config : Config) (board : Board) (schedule : List (Stage × Nat)) :
    Board :=
  schedule.foldl (turn shell config) board

/-- The outcome of a stage that has ended. -/
def outcome? (board : Board) (relay : Relay) (entry : Stage × Nat) : Option Outcome :=
  match board.progress entry.2 with
  | .ended result =>
    some { index := entry.2
           language := entry.1.toolchain.name
           failure := failureOf relay entry.2 entry.1 result }
  | _ => none

end Board

/-- Verifies every stage that the filter selects: two or more of them at the same time, if the
configuration says so, in the order of `schedule`. There is no summary when the schedule stops
before every stage has ended. -/
def runScheduled (shell : ShellFunction) (config : Config) (relay : Relay) (files : Files)
    (schedule : List (Stage × Nat)) : Option Summary :=
  let entries := chosen config.filter relay
  if config.parallel ∧ 1 < entries.length then
    (entries.mapM (Board.outcome? (Board.play shell config (.start files) schedule) relay)).map
      fun outcomes => { outcomes }
  else some (run shell config relay files).1

end QuineRelay.Verify
