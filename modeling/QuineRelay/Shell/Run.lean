import QuineRelay.Shell.Simple

/-!
# Running commands

What each command does. The commands inside it are left to an evaluator, so the
meaning of a command is said without recursion, and `evaluate` ties the evaluator
to it: commands may be nested as deep as its number says.

A jump does not interrupt anything by itself. It is noted in the session, and
sequences and loops stop when they see it.
-/

namespace QuineRelay.Shell

namespace Run

open Session Redirection

variable (eval : Evaluator)

/-- Sets the status of a command that is over, and gives it. -/
def settle (status : Nat) : Action Nat := do
  setStatus status
  return status

/-- Whether something is left to be jumped over. -/
def isJumping : Action Bool := do
  return (← get).jump ≠ .none

/-- Runs commands one after the other, up to a jump. -/
def sequence (tested : Bool) (status : Nat) : List Command → Action Nat
  | [] => settle status
  | command :: rest => do
    let status ← eval command tested
    if !rest.isEmpty && (← isJumping) then return status
    sequence tested status rest

/-- The jump as a loop sees it, which is one loop less for the loops around. -/
def passLoop : Action Jump :=
  modifyGet fun session =>
    match session.jump with
    | .leaveLoops n =>
      (.leaveLoops 1, { session with jump := if n ≤ 1 then .none else .leaveLoops (n - 1) })
    | .nextRound n =>
      if n ≤ 1 then (.nextRound 1, { session with jump := .none })
      else (.leaveLoops 1, { session with jump := .nextRound (n - 1) })
    | jump => (jump, session)

/-- Repeats a body as long as its condition has the status that is asked for;
`status` is that of the round before. -/
def repeatFrom (untilDone : Bool) (condition body : Command) (tested : Bool) (status : Nat) :
    Nat → Action Nat
  | 0 => throw .spent
  | steps + 1 => do
    let answer ← eval condition true
    match ← passLoop with
    | .leaveFunction _ => return answer
    | .leaveLoops _ => return status
    | .nextRound _ => repeatFrom untilDone condition body tested status steps
    | .none =>
      if (answer = 0) = untilDone then return status
      let status ← eval body tested
      match ← passLoop with
      | .leaveFunction _ | .leaveLoops _ => return status
      | _ => repeatFrom untilDone condition body tested status steps

/-- Runs a body once for each text, which is the value of a variable. -/
def eachFrom (name : Text) (body : Command) (tested : Bool) (status : Nat) :
    List Text → Action Nat
  | [] => return status
  | text :: rest => do
    setVariable name (some text)
    let status ← eval body tested
    match ← passLoop with
    | .leaveFunction _ | .leaveLoops _ => return status
    | _ => eachFrom name body tested status rest

/-- Runs an action that is a loop. -/
def asLoop (action : Action Nat) : Action Nat := do
  modify fun session => { session with loops := session.loops + 1 }
  let status ← action
  modify fun session => { session with loops := session.loops - 1 }
  return status

/-- Whether a text fits one of some patterns, which are expanded one by one. -/
def fitsAny (subject : Text) : List Word → Action Bool
  | [] => return false
  | word :: rest => do
    if Pattern.fits (← Expansion.expandPattern (Script.capture eval) word) subject then return true
    fitsAny subject rest

/-- Runs the first case with a pattern that fits. -/
def chooseFrom (subject : Text) (tested : Bool) : List (List Word × Command) → Action Nat
  | [] => return 0
  | (patterns, body) :: rest => do
    if ← fitsAny eval subject patterns then
      match body with
      | .skip => return 0
      | _ => eval body tested
    else if ← isJumping then return 0
    else chooseFrom subject tested rest

/-- Runs the stages of a pipeline from left to right, the first of them with the
stream `input`; without a stream it has the input of the shell. -/
def stagesFrom (tested : Bool) (input : Option Nat) : List Command → Action Nat
  | [] => return 0
  | [last] => do
    let ending ← Script.asChild eval (stage input none last)
    Script.reap ending
  | first :: rest => do
    let output ← addStream (.collector [])
    let ending ← Script.spawn eval (stage input (some output) first)
    let _ ← Script.reap ending
    modify fun session =>
      match session.streams[output]? with
      | some (.collector written) =>
        { session with streams := session.streams.set! output (.source written.reverse) }
      | _ => session
    stagesFrom tested (some output) rest
where
  /-- Runs a stage between two streams. -/
  stage (input output : Option Nat) (command : Command) : Action Unit := do
    if input.isSome then lead 0 input
    if output.isSome then lead 1 output
    discard (eval command tested)

/-- Ends the shell with the status of a command that failed, if that is asked for
and the command was not only a test. -/
def judge (tested : Bool) (status : Nat) : Action Nat := do
  if status ≠ 0 && !tested && has (← get).toProcess 'e' then throw .failure
  return status

/-- Whether the failure of a command may end the shell. -/
def mayFail : Command → Bool
  | .simple .. | .subshell .. | .background _ | .pipe _ => true
  | _ => false

/-- Runs a command, and gives its status. -/
def perform (command : Command) (tested : Bool) : Action Nat := do
  match command with
  | .skip => return 0
  | .simple line assignments words redirects =>
    settle (← Simple.run eval tested line assignments words redirects)
  | .pipe stages => settle (← stagesFrom eval tested none stages)
  | .negated body =>
    let status ← eval body true
    if ← isJumping then settle status
    else settle (if status = 0 then 1 else 0)
  | .sequence commands => sequence eval tested 0 commands
  | .both first second =>
    let status ← eval first true
    if status ≠ 0 || (← isJumping) then return status
    settle (← eval second tested)
  | .either first second =>
    let status ← eval first true
    if status = 0 || (← isJumping) then return status
    settle (← eval second tested)
  | .subshell line body redirects =>
    modify fun session => { session with line }
    let entries ← targets (Script.capture eval) redirects
    let ending ← Script.asChild eval do
      if (← applyAll (Script.capture eval) entries).isSome then throw .error
      discard (eval body tested)
    settle (← Script.reap ending)
  | .background body =>
    Script.startJob body
    settle 0
  | .redirected line body redirects =>
    modify fun session => { session with line }
    let entries ← targets (Script.capture eval) redirects
    let failing (status : Nat) : Action Nat := do judge tested (← settle status)
    settle (← within (Script.capture eval) entries failing (eval body tested))
  | .branch condition success failure =>
    let status ← eval condition true
    if ← isJumping then return status
    if status = 0 then settle (← eval success tested)
    else
      match failure with
      | .skip => settle 0
      | _ => settle (← eval failure tested)
  | .loop untilDone condition body =>
    settle (← asLoop (repeatFrom eval untilDone condition body tested 0 stepLimit))
  | .each line name words body =>
    modify fun session => { session with line }
    let texts ← Expansion.expandAll (Script.capture eval) words
    settle (← asLoop (eachFrom eval name body tested 0 texts))
  | .choose line subject cases =>
    modify fun session => { session with line }
    let text ← Expansion.expandText (Script.capture eval) { tilde := true } subject
    settle (← chooseFrom eval text tested cases)
  | .define name body =>
    modify fun session =>
      { session with
        functions := (name, body) :: session.functions.filter fun entry => entry.1 ≠ name }
    settle 0

/-- Runs a command, with the commands for signals before and after it. A failure
that is not only a test may end the shell. -/
def evaluateWith (command : Command) (tested : Bool) : Action Nat := do
  if has (← get).toProcess 'n' then return 0
  Script.runTraps eval
  let status ← perform eval command tested
  Script.runTraps eval
  judge (tested || !mayFail command) status

end Run

/-- Runs commands that are nested at most `depth` deep. -/
def evaluate (depth : Nat) : Evaluator := fun command tested =>
  match depth with
  | 0 => throw .spent
  | depth + 1 => Run.evaluateWith (evaluate depth) command tested

end QuineRelay.Shell
