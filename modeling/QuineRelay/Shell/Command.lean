import QuineRelay.CommandResult
import QuineRelay.Shell.Run

/-!
# The shell as a function

Running a command line, or a program by name, in a directory: the first process is
made, it runs, and what it left behind is the result. Scripts can be given that
stand for programs; they are put into a directory that is searched before those of
the utilities.

This is one function with which a host may run the steps of a verification. Only the
program itself uses it: the rest of the library speaks about any such function.
-/

namespace QuineRelay.Shell

namespace Host

open Session

/-- The directory of the scripts that stand for programs. -/
def programDirectory : Text := "/tmp/programs"

/-- Files with scripts that stand for programs. -/
def withPrograms (scripts : List (Text × Text)) (files : Files) : Files :=
  scripts.foldl (fun files script =>
    let place := Path.root :: (Text.splitOn '/' programDirectory).drop 1 ++ [script.1]
    (files.put place.dropLast .directory).put place
      (.file (Utf8.encode ("#!/bin/sh\n" ++ script.2)) true)) files

/-- The directories of the utilities. -/
def utilityPath : Text := "/usr/bin:/bin"

/-- The variables that the first process is started with. -/
def environment (hasPrograms : Bool) : List (Text × Variable) :=
  let path := if hasPrograms then programDirectory ++ ':' :: utilityPath else utilityPath
  [(searchVariable, { value := some path, isExported := true }),
    ("HOME", { value := some "/root", isExported := true })]

/-- The number of the process around the shell. -/
def hostNumber : Nat := 4200

/-- The stream of the output. -/
def outputStream : Nat := 1

/-- The stream of the error output. -/
def errorStream : Nat := 2

/-- The session before a command runs: a process with an empty input, and streams
that collect what is written. -/
def start (scripts : List (Text × Text)) (files : Files) (directory : Path) : Session :=
  { number := firstNumber
    rootNumber := firstNumber
    waiting := [hostNumber]
    name := "sh"
    bindings := environment !scripts.isEmpty
    descriptors := [(0, 0), (1, outputStream), (2, errorStream)]
    directory
    files := withPrograms scripts files
    streams := #[.sink, .collector [], .collector []]
    nextNumber := firstNumber + 1 }

/-- How deep commands may be nested. -/
def depthLimit : Nat := 30000

/-- The evaluator of the shell. -/
def evaluator : Evaluator :=
  evaluate depthLimit

/-- What was written to a stream. -/
def writtenTo (session : Session) (index : Nat) : Bytes :=
  match session.streams[index]? with
  | some (.collector written) => written.reverse
  | _ => []

/-- The result of a process that runs an action. It is killed when it takes too many
steps. -/
def resultOf (action : Action Unit) (session : Session) : CommandResult :=
  let process : Action Ending := do
    let ending ← Script.conclude evaluator (← Redirection.attempt action)
    Script.settleJobs evaluator stepLimit
    return ending
  let (outcome, after) := process.run.run session
  { status := match outcome with
      | .ok (.code status) => .code status
      | _ => .signal
    stdout := writtenTo after outputStream
    stderr := writtenTo after errorStream
    files := after.files }

end Host

open Host

/-- Runs a command line with the help of scripts that stand for programs. -/
def runLine (scripts : List (Text × Text)) : ShellFunction := fun files directory line =>
  resultOf (Program.runShell evaluator "sh" ["-c", ofText line])
    (start scripts files directory)

/-- Runs the program `name`; none when there is no script that stands for it. -/
def runProgram? (scripts : List (Text × Text)) (files : Files) (name : Text)
    (arguments : List Text) : Option CommandResult :=
  let session := start scripts files []
  let place := programDirectory ++ '/' :: name
  match Program.load evaluator session place name (arguments.map ofText) with
  | .ok action => some (resultOf action session)
  | .error _ => none

end QuineRelay.Shell
