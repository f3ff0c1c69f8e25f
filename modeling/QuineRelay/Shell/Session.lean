import QuineRelay.Files
import QuineRelay.Shell.Arithmetic
import QuineRelay.Shell.Syntax

/-!
# Shell sessions

All that a running command can see or change. It has two halves. A process holds
what each shell has for itself: variables, arguments, options, traps, where its
descriptors lead. The rest is shared by all processes: the files, the streams with
what was written to them and what is still to be read from them, and the processes
that are to run later.

A subshell is the same session with a process of its own: when it ends, the
process from before is put back, and what is shared stays.
-/

namespace QuineRelay.Shell

/-- A variable. One without a value has only its attributes. -/
structure Variable where
  value : Option Text
  isExported : Bool := false
  isReadonly : Bool := false

/-- What is left undone because of a command that jumps. -/
inductive Jump where
  | none
  /-- Leaves this many loops. -/
  | leaveLoops (count : Nat)
  /-- Leaves this many loops but the last, which goes on with its next round. -/
  | nextRound (count : Nat)
  /-- Leaves a function or a script, with a status that was given or not. -/
  | leaveFunction (hasStatus : Bool)
  deriving DecidableEq, Repr

/-- What a local variable hides. -/
inductive Hidden where
  | variable (name : Text) (old : Option Variable)
  | options (old : Text)

/-- Where a descriptor leads. Streams can be shared by descriptors and by
processes. -/
inductive Stream where
  /-- A place in a file. -/
  | file (path : Path) (offset : Nat) (reads writes appends : Bool)
  /-- Bytes that are still to be read. -/
  | source (rest : Bytes)
  /-- Bytes that were written, in reverse. -/
  | collector (written : Bytes)
  /-- A device that is empty and discards what is written. -/
  | sink
  | directory

/-- How a process ended. -/
inductive Ending where
  | code (n : Nat)
  | signal (number : Nat)
  deriving DecidableEq, Repr

/-- A process in the background, as the shell that started it knows it. -/
structure JobSlot where
  /-- The number under which it is shown. -/
  slot : Nat
  /-- The number of the process. -/
  number : Nat
  /-- Whether it was waited for. -/
  isWaited : Bool := false

/-- A shell process. -/
structure Process where
  /-- The number of the process. -/
  number : Nat
  /-- The number of the shell that was started as a program. -/
  rootNumber : Nat
  /-- The processes that wait for this one. -/
  waiting : List Nat := []
  /-- The name of the shell or of its script. -/
  name : Text
  arguments : List Text := []
  bindings : List (Text × Variable) := []
  functions : List (Text × Command) := []
  aliases : List (Text × Text) := []
  /-- The programs that were found under their names, oldest first. -/
  tracked : List (Text × Text) := []
  /-- The letters of the options that are set. -/
  options : Text := []
  /-- The commands for signals, and for the end of the shell under zero. -/
  traps : List (Nat × Text) := []
  /-- The stream of each open descriptor. -/
  descriptors : List (Nat × Nat) := []
  directory : Path
  /-- The exit status of the last command. -/
  status : Nat := 0
  /-- The exit status of the last command that was substituted. -/
  substituted : Nat := 0
  /-- The status with which the process ends, if it is settled already. -/
  settled : Option Nat := none
  jump : Jump := .none
  /-- Number of loops around the command. -/
  loops : Nat := 0
  /-- The builtin command that is running, as error messages call it. -/
  command : Option Text := none
  /-- Whether output of the builtin command could not be written. -/
  hasLostOutput : Bool := false
  /-- The line of the command that is running. -/
  line : Nat := 1
  /-- What the local variables of each call hide. -/
  hidden : List (List Hidden) := []
  /-- Number of function calls that are not over. -/
  calls : Nat := 0
  /-- The number of the next argument whose options are read. -/
  optionIndex : Nat := 1
  /-- The place in the argument before, while its options are being read. -/
  optionOffset : Option Nat := none
  /-- Whether a command is traced at this moment. -/
  isTracing : Bool := false
  /-- The last process that was started in the background. -/
  lastJob : Option Nat := none
  /-- The processes in the background, last first. -/
  jobs : List JobSlot := []
  /-- The rights that new files do not get. -/
  mask : Nat := 18
  /-- The signals that are ignored because they were when the shell started. -/
  ignored : List Nat := []

/-- A process in the background that has not run yet. -/
structure Job where
  process : Process
  body : Command

/-- The state of a running shell. -/
structure Session extends Process where
  files : Files
  streams : Array Stream := #[]
  /-- The texts of the here-documents. -/
  documents : Array Word := #[]
  /-- The number of the next process. -/
  nextNumber : Nat
  /-- The processes in the background that have not run yet. -/
  pending : List Job := []
  /-- How other processes in the background ended. -/
  ended : List (Nat × Ending) := []
  /-- Signals that were sent and not received yet: receiver and signal. -/
  signals : List (Nat × Nat) := []

/-- What ends the commands of a process. -/
inductive Interruption where
  /-- The process ends with the status in `settled`, or with its last status. -/
  | exit
  /-- The process ends because a command failed. -/
  | failure
  /-- The process ends because of an error, unless the error is caught. -/
  | error
  | signal (number : Nat)
  /-- Too many steps were taken. -/
  | spent
  deriving DecidableEq, Repr

/-- A part of a running command. -/
abbrev Action := ExceptT Interruption (StateM Session)

namespace Session

/-- The number of a shell that was started as a program. -/
def firstNumber : Nat := 4242

/-- Number of steps after which a loop is given up. -/
def stepLimit : Nat := 3000000

/-- Whether an option is set. -/
def has (process : Process) (option : Char) : Bool :=
  process.options.contains option

/-- Sets the exit status. -/
def setStatus (status : Nat) : Action Unit :=
  modify fun session => { session with status }

end Session

end QuineRelay.Shell
