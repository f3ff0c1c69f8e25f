import QuineRelay.Shell.Builtin.Jobs
import QuineRelay.Shell.Parser
import QuineRelay.Shell.Redirection

/-!
# Scripts and processes

Running a text command by command, and what belongs to the life of a process: the
commands for signals, the command for its end, the processes it starts and those
it leaves in the background.

All of this is said for any evaluator, which is what runs a single command.

A process in the background runs as late as possible: when it is waited for, or
when the process that started it has ended. It never sees what is done meanwhile,
except to files, so when it runs makes a difference to those only.
-/

namespace QuineRelay.Shell

/-- Runs a command, and gives its status. The truth value tells whether the command
is only a test, whose failure does not end the shell. -/
abbrev Evaluator := Command → Bool → Action Nat

namespace Script

open Session Redirection

variable (eval : Evaluator)

/-- The first lines of a text. -/
def firstLines : Nat → Text → Text
  | 0, _ => []
  | _, [] => []
  | n + 1, text =>
    let line := text.takeWhile (· ≠ '\n')
    match text.drop line.length with
    | [] => line
    | mark :: rest => line ++ mark :: firstLines n rest

/-- The part of a text that was read to get from one state of a reader to
another. -/
def consumed (before after : Reader) : Text :=
  if after.input.isEmpty then before.input
  else firstLines (after.line - before.line) before.input

/-- Runs the commands that are left in a reader, up to a jump; `status` is the
status of those before. The lines of a file can be shown as they are read. -/
def runFrom (isFile tested : Bool) (status : Nat) (reader : Reader) : Nat → Action Nat
  | 0 => throw .spent
  | steps + 1 => do
    let session ← get
    let reader := { reader with aliases := session.aliases, documents := session.documents }
    match nextCommand?.run reader with
    | .error e =>
      modify fun session => { session with line := e.line }
      raise e.message
    | .ok (command, after) =>
      set { session with documents := after.documents }
      if isFile && has session.toProcess 'v' then putError (consumed reader after)
      match command with
      | none => return status
      | some .skip => runFrom isFile tested status after steps
      | some command =>
        let status ← eval command tested
        if (← get).jump ≠ .none then return status
        runFrom isFile tested status after steps

/-- Runs a text. -/
def runText (isFile tested : Bool) (text : Text) : Action Nat :=
  runFrom eval isFile tested 0 { input := text } stepLimit

/-- Runs the commands for the signals that the process received. The last status
stays, unless a command returns with one of its own. -/
def runTraps : Action Unit := do
  let session ← get
  let received := (session.signals.filter fun entry => entry.1 = session.number).map Prod.snd
  if received.isEmpty || session.jump ≠ .none then return
  let status := session.settled.getD session.status
  set { session with settled := some status }
  (received.eraseDups.mergeSort).forM fun signal => do
    let session ← get
    if session.jump = .none then
      set { session with
        signals := session.signals.filter fun entry => entry ≠ (session.number, signal) }
      match session.traps.lookup signal with
      | none => pure ()
      | some text =>
        let _ ← runText eval false false text
        if (← get).jump ≠ .leaveFunction true then setStatus status
  modify fun after => { after with settled := session.settled }

/-- Receives the signals that were sent meanwhile. Those that the process has
commands for are kept for `runTraps`. -/
def receive : Action Unit := do
  let session ← get
  let (own, others) := session.signals.partition fun entry => entry.1 = session.number
  let (handled, unhandled) := own.partition fun entry => Builtin.handles session.toProcess entry.2
  set { session with signals := others ++ handled }
  match unhandled.find? fun entry => !Builtin.ignores session.toProcess entry.2 with
  | some entry => throw (.signal entry.2)
  | none => return

/-- Notes that a process ended that this one has started. -/
def noteEnd : Action Unit :=
  modify fun session =>
    if Builtin.handles session.toProcess Signal.child then
      { session with signals := session.signals ++ [(session.number, Signal.child)] }
    else session

/-- The ending of a process with a status. -/
def endingOf (status : Nat) : Ending :=
  .code (status % octetLimit)

/-- Ends a process: settles its status and runs its command for the end. -/
def conclude (result : Except Interruption Unit) : Action Ending := do
  match result with
  | .error (.signal number) => return .signal number
  | .error .spent => throw .spent
  | .error .exit => modify fun session =>
    { session with status := session.settled.getD session.status }
  | _ => pure ()
  let session ← get
  match session.traps.lookup 0 with
  | none => return endingOf session.status
  | some text =>
    set { session with
      traps := session.traps.filter fun entry => entry.1 ≠ 0
      jump := .none
      settled := some session.status }
    match ← attempt (runText eval false false text) with
    | .ok _ | .error .exit =>
      let session ← get
      return endingOf (session.settled.getD session.status)
    | .error (.signal number) => return .signal number
    | .error .spent => throw .spent
    | .error _ => return endingOf (← get).status

/-- Runs the processes in the background that this process has started, directly or
not. -/
def settleJobs : Nat → Action Unit
  | 0 => throw .spent
  | steps + 1 => do
    let session ← get
    match session.pending.find? fun job => job.process.waiting.contains session.number with
    | none => return
    | some job =>
      set { session with
        toProcess := job.process
        pending := session.pending.filter fun other => other.process.number ≠ job.process.number }
      let ending ← conclude eval (← attempt (discard (eval job.body false)))
      modify fun after =>
        { after with
          toProcess := session.toProcess, ended := (job.process.number, ending) :: after.ended }
      if job.process.waiting.head? = some session.number then noteEnd
      settleJobs steps

/-- The first slot from `slot` on for another process, and the processes in the
background without the one that was there: it makes room if it is over and was
waited for. -/
def freeSlot (session : Session) (slot : Nat) : Nat → Nat × List JobSlot
  | 0 => (slot, session.jobs)
  | steps + 1 =>
    match session.jobs.find? fun job => job.slot = slot with
    | none => (slot, session.jobs)
    | some job =>
      if job.isWaited && (session.ended.lookup job.number).isSome then
        (slot, session.jobs.filter fun other => other.slot ≠ slot)
      else freeSlot session (slot + 1) steps

/-- A new process that is started by this one, and its slot. Only the signals that
the process ignores are ignored by the new one. -/
def fork : Action (Process × Nat) :=
  modifyGet fun session =>
    let process : Process := { session.toProcess with
      number := session.nextNumber
      waiting := session.number :: session.waiting
      traps := session.traps.filter fun entry => entry.2.isEmpty
      jobs := [] }
    let (slot, jobs) := freeSlot session 1 session.jobs.length
    ((process, slot), { session with nextNumber := session.nextNumber + 1, jobs })

/-- Runs an action as a process of its own, and gives how the process ended. The
process that started it has not noticed that yet. -/
def spawn (action : Action Unit) : Action Ending := do
  let (process, _) ← fork
  let before := (← get).toProcess
  modify fun session => { session with toProcess := process }
  let ending ← conclude eval (← attempt action)
  settleJobs eval stepLimit
  modify fun session => { session with toProcess := before }
  return ending

/-- Goes on when processes that were started have ended. -/
def goOn : Action Unit := do
  receive
  noteEnd

/-- Runs an action as a process of its own, and gives how the process ended. -/
def asChild (action : Action Unit) : Action Ending := do
  let ending ← spawn eval action
  goOn
  return ending

/-- The status of a process that ended. The end by a signal is reported. -/
def reap (ending : Ending) : Action Nat := do
  match ending with
  | .code status => return status
  | .signal number =>
    match Signal.report? number with
    | some text => putError (text ++ "\n")
    | none => pure ()
    return 128 + number

/-- Leaves a command for later, as a process in the background. Its input is
empty. -/
def startJob (body : Command) : Action Unit := do
  let (process, slot) ← fork
  let sink ← addStream .sink
  let process := { process with
    descriptors := led process.descriptors 0 (some sink)
    ignored := 2 :: 3 :: process.ignored }
  modify fun session =>
    { session with
      pending := session.pending ++ [{ process, body }]
      jobs := { slot, number := process.number } :: session.jobs
      lastJob := some process.number }

/-- What a command writes, run as a process of its own. -/
def capture (body : Command) : Action Text := do
  match body with
  | .skip => return []
  | _ =>
    let index ← addStream (.collector [])
    let ending ← asChild eval do
      lead 1 (some index)
      discard (eval body false)
    let status ← reap ending
    modifyGet fun session =>
      let written := match session.streams[index]? with
        | some (.collector written) => written.reverse
        | _ => []
      (ofBytes written,
        { session with substituted := status, streams := session.streams.set! index .sink })

end Script

end QuineRelay.Shell
