import QuineRelay.Shell.Builtin.Options
import QuineRelay.Shell.Signal

/-!
# Signals between processes

The builtin commands that send signals and that say what a shell does when it
receives one. A process that waits for another one receives its signals when it
goes on, and a process in the background that has not run yet is ended at once.
-/

namespace QuineRelay.Shell.Builtin

open Session

/-- Whether a process does nothing on a signal. -/
def ignores (process : Process) (signal : Nat) : Bool :=
  signal ≠ Signal.kill && (process.traps.lookup signal = some []
    || ((process.traps.lookup signal).isNone
      && (process.ignored.contains signal || Signal.harmless.contains signal
        || Signal.pausing.contains signal)))

/-- Whether a process has a command for a signal. -/
def handles (process : Process) (signal : Nat) : Bool :=
  signal ≠ Signal.kill && (process.traps.lookup signal).any fun text => !text.isEmpty

/-- Sends a signal; the result tells whether there is such a process. -/
def deliver (target signal : Nat) : Action Bool := do
  let session ← get
  if target = session.number || target = 0 then
    if handles session.toProcess signal then
      set { session with signals := session.signals ++ [(session.number, signal)] }
    else if signal ≠ 0 && !ignores session.toProcess signal then throw (.signal signal)
    return true
  else if session.waiting.contains target then
    if signal ≠ 0 then
      set { session with signals := session.signals ++ [(target, signal)] }
    return true
  else
    match session.pending.find? fun job => job.process.number = target with
    | some job =>
      if signal ≠ 0 && !ignores job.process signal then
        set { session with
          pending := session.pending.filter fun job => job.process.number ≠ target
          ended := (target, .signal signal) :: session.ended }
      return true
    | none => return false

/-- The message for a use of `kill` that makes no sense. -/
def killUsage : Text :=
  "Usage: kill [-s sigspec | -signum | -sigspec] [pid | job]... or\nkill -l [exitstatus]"

/-- The process in the background that a text stands for, by its number or by its
place among the others. -/
def findJob (text : Text) : Action JobSlot := do
  let jobs := (← get).jobs
  let name := text.drop 1
  let found (job : Option JobSlot) (message : Text) : Action JobSlot :=
    match job with
    | some job => return job
    | none => raise message
  if name ∈ [[], ['%'], ['+']] then found jobs.head? "No current job"
  else if name = ['-'] then found jobs[1]? "No previous job"
  else
    let slot := Text.digits? name
    found (jobs.find? fun job => some job.slot = slot) ("No such job: " ++ text)

/-- How a process in the background does, in words. -/
def jobState (session : Session) (job : JobSlot) : Text :=
  match session.ended.lookup job.number with
  | none => "Running"
  | some (.code 0) => "Done"
  | some (.code status) => "Done(" ++ Text.decimal status ++ ")"
  | some (.signal number) => (Signal.report? number).getD []

/-- Shows a process in the background, and forgets it if it is over. -/
def showJob (showsNumber onlyNumber : Bool) (job : JobSlot) : Action Unit := do
  let session ← get
  if onlyNumber then putText (Text.decimal job.number ++ "
")
  else
    let current := session.jobs.map JobSlot.slot
    let sign : Char :=
      if current.head? = some job.slot then '+'
      else if current[1]? = some job.slot then '-'
      else ' '
    let lead : Text := '[' :: Text.decimal job.slot ++ "] " ++ sign :: " "
      ++ if showsNumber then Text.decimal job.number ++ " " else []
    let line := lead ++ jobState session job
    putText (line ++ List.replicate (33 - line.length) ' ' ++ "
")
  if (session.ended.lookup job.number).isSome then
    modify fun session =>
      { session with jobs := session.jobs.filter fun other => other.slot ≠ job.slot }

/-- Shows processes in the background. -/
def jobsCommand (arguments : List Text) : Action Nat := do
  let (flags, names) ← options "lp" arguments
  let has (letter : Char) : Bool := flags.any fun flag => flag.1 = letter
  let showOne (job : JobSlot) : Action Unit := showJob (has 'l') (has 'p') job
  if names.isEmpty then (← get).jobs.forM showOne
  else names.forM fun name => do showOne (← findJob name)
  return 0

/-- Fails, because no process in the background was started so that it can go on in
the foreground. -/
def resumeCommand (arguments : List Text) : Action Nat := do
  let (_, names) ← options [] arguments
  let _ ← findJob (names.headD "%")
  raise ("job " ++ names.headD "(null)" ++ " not created under job control")

/-- Sends a signal to processes; the result tells whether all of them exist. -/
def killAll (signal : Nat) (isFine : Bool) : List Text → Action Nat
  | [] => return if isFine then 0 else 1
  | text :: rest => do
    let target ← match text with
      | '-' :: digits => count digits
      | '%' :: _ => do pure (← findJob text).number
      | _ => count text
    if ← deliver target signal then killAll signal isFine rest
    else
      warn "No such process\n"
      killAll signal false rest

/-- Shows the names of signals. -/
def listSignals (operands : List Text) : Action Nat := do
  match operands with
  | [] =>
    let lines : Text := (Signal.names.drop 1).flatMap fun name => name ++ "\n"
    putText ("0\n" ++ lines)
    return 0
  | text :: _ =>
    let n ← count text
    let signal := if 128 < n then n - 128 else n
    match Signal.names[signal]? with
    | some name =>
      if signal = 0 then raise ("invalid signal number or exit status: " ++ text)
      putText (name ++ "\n")
      return 0
    | none => raise ("invalid signal number or exit status: " ++ text)

/-- Sends a signal to processes, or shows the names of signals. -/
def killCommand (arguments : List Text) : Action Nat := do
  match arguments with
  | [] => raise killUsage
  | ('-' :: name) :: rest =>
    match Signal.number? 1 name with
    | some signal => if rest.isEmpty then raise killUsage else killAll signal true rest
    | none =>
      let (flags, operands) ← options "ls:" arguments
      let isList := flags.any fun flag => flag.1 = 'l'
      let signals ← (flags.filter fun flag => flag.1 = 's').mapM fun flag =>
        match Signal.number? 1 flag.2 with
        | some signal => pure signal
        | none => raise ("invalid signal number or name: " ++ flag.2)
      if isList then
        if signals.isEmpty then listSignals operands else raise killUsage
      else if operands.isEmpty then raise killUsage
      else killAll (signals.getLastD Signal.terminate) true operands
  | _ => killAll Signal.terminate true arguments

/-- The line that shows a trap. -/
def trapLine (entry : Nat × Text) : Text :=
  "trap -- " ++ singleQuoted entry.2 ++ " " ++ Signal.names.getD entry.1 [] ++ "\n"

/-- Sets what a shell does on signals, one after the other. Without an action they
are left to the system. -/
def setTraps (action : Option Text) : List Text → Action Nat
  | [] => return 0
  | name :: rest => do
    match Signal.number? 0 name with
    | none =>
      putError ("trap: " ++ name ++ ": bad trap\n")
      return 1
    | some signal =>
      modify fun session =>
        let others := session.traps.filter fun entry => entry.1 ≠ signal
        match action with
        | some text => { session with traps := (signal, text) :: others }
        | none => { session with traps := others }
      setTraps action rest

/-- Sets or shows what a shell does on signals. -/
def trapCommand (arguments : List Text) : Action Nat := do
  let (_, operands) ← options [] arguments
  match operands with
  | [] =>
    let traps := (← get).traps.mergeSort fun a b => a.1 ≤ b.1
    putText (traps.flatMap trapLine)
    return 0
  | [only] => setTraps none [only]
  | first :: rest =>
    if (Signal.number? 0 first).isSome then setTraps none operands
    else setTraps (if first = ['-'] then none else some first) rest

end QuineRelay.Shell.Builtin
