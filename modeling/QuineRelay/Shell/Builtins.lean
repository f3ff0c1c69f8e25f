import QuineRelay.Shell.Builtin.Mask
import QuineRelay.Shell.Builtin.Printf
import QuineRelay.Shell.Builtin.Read
import QuineRelay.Shell.Builtin.Test
import QuineRelay.Shell.Programs

/-!
# Builtin commands

The builtin commands by name, and the frame in which they run: error messages name
the command, an error in a command that is not special does not end the shell, and
output that is lost is an error.
-/

namespace QuineRelay.Shell.Builtin

open Session Redirection

/-- Writes arguments with their escapes replaced. -/
def echoCommand (arguments : List Text) : Action Nat := do
  putText (echoed arguments)
  return 0

/-- Writes arguments in a format. -/
def printfCommand (arguments : List Text) : Action Nat := do
  let (_, operands) ← options [] arguments
  match operands with
  | [] => raise "usage: printf format [arg ...]"
  | format :: operands =>
    let (finish, progress) := Printf.print format operands
    progress.complaints.reverse.forM warn
    match finish with
    | .failed message =>
      warn message
      putText progress.output.reverse
      setStatus 2
      throw .error
    | _ =>
      putText progress.output.reverse
      return if progress.complaints.isEmpty then 0 else 1

/-- What a session tells about files. -/
def fileFacts (session : Session) : Condition.FileFacts where
  holds operator name :=
    let isUtility := (Lookup.utilityAt? name).isSome
    match operator, Place.find session.files session.directory name with
    | ['-', c], .ok entry =>
      match entry with
      | .directory => c ∈ ['d', 'e', 'r', 's', 'w', 'x', 'O', 'G']
      | .sink => c ∈ ['c', 'e', 'r', 'w', 'O', 'G']
      | .file content isExecutable =>
        if c = 's' then !content.isEmpty
        else if c = 'x' then isExecutable
        else c ∈ ['e', 'f', 'r', 'w', 'O', 'G']
    | ['-', c], .error _ => isUtility && c ∈ ['e', 'f', 'r', 's', 'w', 'x', 'O', 'G']
    | _, _ => false
  isSame a b :=
    let place (name : Text) : Option Path :=
      match Place.find session.files session.directory name with
      | .ok _ => (Place.resolve session.files session.directory name).toOption
      | .error _ => none
    (place a).isSome && place a = place b

/-- Tells whether a condition holds. -/
def testCommand (arguments : List Text) : Action Nat := do
  match Condition.evaluate (fileFacts (← get)) arguments with
  | .ok holds => return if holds then 0 else 1
  | .error message => raise message

/-- Tells whether a condition between brackets holds. -/
def bracketCommand (arguments : List Text) : Action Nat :=
  if arguments.getLast? = some [']'] then testCommand arguments.dropLast else raise "missing ]"

/-- Leaves loops, or goes on with their next rounds. -/
def leaveLoops (jump : Nat → Jump) (arguments : List Text) : Action Nat := do
  let n ← match arguments with
    | [] => pure 1
    | text :: _ => do
      let n ← count text
      if n = 0 then raise ("Illegal number: " ++ text)
      pure n
  modify fun session =>
    if session.loops = 0 then session else { session with jump := jump (min n session.loops) }
  return 0

/-- Leaves a function or a script. -/
def returnCommand (arguments : List Text) : Action Nat := do
  match arguments with
  | [] =>
    modify fun session => { session with jump := .leaveFunction false }
    return (← get).status
  | text :: _ =>
    let status ← count text
    modify fun session => { session with jump := .leaveFunction true }
    return status

/-- Ends the process. -/
def exitCommand (arguments : List Text) : Action Nat := do
  match arguments with
  | [] => throw .exit
  | text :: _ =>
    let status ← count text
    modify fun session => { session with settled := some status }
    throw .exit

/-- The process in the background that an argument stands for, which counts as
waited for from now on. -/
def jobOf (text : Text) : Action (Option Nat) := do
  let number ← match text with
    | '%' :: _ => pure (← findJob text).number
    | _ => count text
  modifyGet fun session =>
    let isKnown := session.jobs.any fun job => job.number = number
    let jobs := session.jobs.map fun job =>
      if job.number = number then { job with isWaited := true } else job
    (if isKnown then some number else none, { session with jobs })

/-- The status of the last one of some processes that exists. -/
def waitEach (status : Nat) : List Text → Action Nat
  | [] => return status
  | text :: rest => do
    let job ← jobOf text
    let session ← get
    match job.bind fun job => session.ended.lookup job with
    | some ending => waitEach (← Script.reap ending) rest
    | none => waitEach status rest

/-- Shows what is the same in every session. -/
def fixedOutput (text : Text) : Action Nat := do
  putText text
  return 0

variable (eval : Evaluator)

/-- Waits for processes in the background. A signal that the process has a command
for ends the wait. -/
def waitCommand (arguments : List Text) : Action Nat := do
  let (_, operands) ← options [] arguments
  Script.settleJobs eval stepLimit
  Script.receive
  let session ← get
  let received := session.signals.filter fun entry =>
    entry.1 = session.number && entry.2 ≠ Signal.child
  match received.map Prod.snd with
  | signal :: signals => return 128 + signals.foldl min signal
  | [] =>
    if operands.isEmpty then
      modify fun session =>
        { session with jobs := session.jobs.map fun job => { job with isWaited := true } }
      return 0
    else waitEach 127 operands

/-- Runs its arguments as a command. -/
def evalCommand (tested : Bool) (arguments : List Text) : Action Nat :=
  Script.runText eval false tested (Text.join " " arguments)

/-- The place of a script that is to be run by this process. -/
def sourcePlace (name : Text) : Action Text := do
  let session ← get
  if name.contains '/' then return name
  let isFile (place : Text) : Bool :=
    match Place.find session.files session.directory place with
    | .ok (.file ..) => true
    | _ => false
  match (Lookup.places (Lookup.searchPath session.toProcess) name).find? isFile with
  | some place => return place
  | none => raise (name ++ ": not found")

/-- Runs a script by this process. -/
def sourceCommand (arguments : List Text) : Action Nat := do
  let (_, operands) ← options [] arguments
  match operands with
  | [] => return 0
  | name :: _ =>
    let place ← sourcePlace name
    let text ← Program.scriptText place
    modify fun session => { session with command := some place }
    let status ← Script.runText eval true false text
    modify fun session =>
      { session with
        jump := match session.jump with
          | .leaveFunction _ => .none
          | jump => jump }
    return status

/-- Runs a program instead of the rest of the process. -/
def execCommand (arguments : List Text) : Action Nat := do
  match arguments with
  | [] => return 0
  | name :: operands =>
    let session ← get
    match Lookup.findProgram session (Lookup.searchPath session.toProcess) name with
    | .program place => Program.replace eval place name operands
    | .unknown reason =>
      Program.refuse name { reason, status := if reason = Lookup.missing then 127 else 126 }
    | _ => return 0

/-- The builtin commands that have to do with what the shell knows by name. -/
def namingCommands : List (Text × (List Text → Action Nat)) :=
  [("alias", aliasCommand), ("cd", changeDirectory), ("chdir", changeDirectory),
    ("command", Lookup.commandCommand), ("export", declareCommand true),
    ("getopts", getoptsCommand), ("hash", Lookup.hashCommand), ("local", localCommand),
    ("pwd", printDirectory), ("read", readCommand), ("readonly", declareCommand false),
    ("set", setCommand), ("shift", shiftCommand), ("type", Lookup.typeCommand),
    ("umask", umaskCommand), ("unalias", unaliasCommand), ("unset", unsetCommand)]

/-- The other builtin commands that only depend on their arguments and on the
session. -/
def plainCommands : List (Text × (List Text → Action Nat)) :=
  [("[", bracketCommand), ("break", leaveLoops .leaveLoops), ("bg", resumeCommand),
    ("continue", leaveLoops .nextRound), ("echo", echoCommand), ("exit", exitCommand),
    ("false", fun _ => return 1), ("fg", resumeCommand), ("jobs", jobsCommand),
    ("kill", killCommand), ("printf", printfCommand), ("return", returnCommand),
    ("test", testCommand),
    ("times", fun _ => fixedOutput "0m0.000000s 0m0.000000s\n0m0.000000s 0m0.000000s\n"),
    ("trap", trapCommand), ("ulimit", fun _ => fixedOutput "unlimited\n")]

/-- Runs a builtin command. -/
def perform (tested : Bool) (name : Text) (arguments : List Text) : Action Nat :=
  match (namingCommands ++ plainCommands).lookup name with
  | some action => action arguments
  | none =>
    if name = "eval" then evalCommand eval tested arguments
    else if name = "." then sourceCommand eval arguments
    else if name = "exec" then execCommand eval arguments
    else if name = "wait" then waitCommand eval arguments
    else return 0

/-- Runs a builtin command in its frame. An error in it ends the shell only if
`isSpecial` holds. -/
def run (tested isSpecial : Bool) (name : Text) (arguments : List Text) : Action Nat := do
  let before := (← get).command
  modify fun session => { session with command := some name, hasLostOutput := false }
  let result ← attempt do
    let status ← perform eval tested name arguments
    if (← get).hasLostOutput then
      warn (name ++ ": I/O error")
      return status ||| 1
    return status
  modify fun session => { session with command := before, hasLostOutput := false }
  match result with
  | .error .error => if isSpecial then throw .error else return (← get).status
  | result =>
    let status ← resume result
    setStatus status
    return status

end QuineRelay.Shell.Builtin
