import QuineRelay.Text.Basic

/-!
# The tape machine

A machine with a tape of byte cells, unbounded to the right, and eight commands:
change the cell, move, print the cell, and two brackets that jump over or back
to each other. Every other byte of a program does nothing.

`pairBrackets` computes the jumps before the program runs, `step` executes one
command, and `runFor` repeats it. A program may run forever, so running takes a
number of steps, and running out of them is an outcome of its own. A straight
program of `n` commands takes `n` steps.
-/

namespace QuineRelay.TapeMachine

/-- The cell goes up by one. -/
def increment : UInt8 := 0x2B
/-- The cell goes down by one. -/
def decrement : UInt8 := 0x2D
/-- The pointer moves right. -/
def moveRight : UInt8 := 0x3E
/-- The pointer moves left. -/
def moveLeft : UInt8 := 0x3C
/-- The cell is printed. -/
def print : UInt8 := 0x2E
/-- On a zero cell, continues after the matching closing bracket. -/
def loopStart : UInt8 := 0x5B
/-- On a nonzero cell, continues after the matching opening bracket. -/
def loopEnd : UInt8 := 0x5D

/-- Why a program has no output. -/
inductive Fault where
  /-- A bracket has no partner. -/
  | unbalanced
  /-- The pointer moved left of the first cell. -/
  | leftOfStart
  /-- The pointer or a jump is outside its table. -/
  | outOfRange
  /-- The program was still running when its steps were used up. -/
  | outOfSteps
  deriving DecidableEq, Repr

/-- Pairs the brackets of `code`, whose first byte has the given `index`.
`opened` holds the open brackets, innermost first, and `jump` maps each bracket
to its partner. -/
def pairBracketsFrom (index : Nat) (opened : List Nat) (jump : Array Nat) :
    Bytes → Option (Array Nat)
  | [] => if opened.isEmpty then some jump else none
  | b :: rest =>
    if b = loopStart then pairBracketsFrom (index + 1) (index :: opened) jump rest
    else if b = loopEnd then
      match opened with
      | [] => none
      | start :: outer =>
        pairBracketsFrom (index + 1) outer
          ((jump.setIfInBounds start index).setIfInBounds index start) rest
    else pairBracketsFrom (index + 1) opened jump rest

/-- The partner of every bracket of a program, or none when they do not match. -/
def pairBrackets (code : Bytes) : Option (Array Nat) :=
  pairBracketsFrom 0 [] (Array.replicate code.length 0) code

/-- A program ready to run: its bytes and its bracket partners. -/
structure Program where
  code : Array UInt8
  jump : Array Nat

/-- Pairs the brackets of a program. -/
def Program.ofBytes? (code : Bytes) : Option Program :=
  (pairBrackets code).map fun jump => { code := code.toArray, jump := jump }

/-- A machine between two steps. -/
structure State where
  tape : Array UInt8
  pointer : Nat
  /-- Index of the next command. -/
  counter : Nat
  /-- What has been printed, last byte first. -/
  printed : Bytes

/-- The machine before the first step: one zero cell and nothing printed. -/
def State.start : State :=
  { tape := #[0], pointer := 0, counter := 0, printed := [] }

/-- The machine one cell further right; the tape grows when needed. -/
def State.right (state : State) : State :=
  let pointer := state.pointer + 1
  { state with
    pointer := pointer
    tape := if pointer = state.tape.size then state.tape.push 0 else state.tape }

/-- The machine one cell further left, unless it is at the first cell. -/
def State.left? (state : State) : Option State :=
  if state.pointer = 0 then none else some { state with pointer := state.pointer - 1 }

/-- The machine with `cell` under the pointer. -/
def State.put (state : State) (cell : UInt8) : State :=
  { state with tape := state.tape.setIfInBounds state.pointer cell }

/-- The machine with `cell` printed. -/
def State.emit (state : State) (cell : UInt8) : State :=
  { state with printed := cell :: state.printed }

/-- The machine about to execute the command after the one at `index`. -/
def State.after (state : State) (index : Nat) : State :=
  { state with counter := index + 1 }

/-- Executes the command `op`. -/
def step (program : Program) (op : UInt8) (state : State) : Except Fault State :=
  match state.tape[state.pointer]? with
  | none => .error .outOfRange
  | some cell =>
    let here := state.counter
    if op = increment then .ok ((state.put (cell + 1)).after here)
    else if op = decrement then .ok ((state.put (cell - 1)).after here)
    else if op = print then .ok ((state.emit cell).after here)
    else if op = moveRight then .ok (state.right.after here)
    else if op = moveLeft then
      match state.left? with
      | some moved => .ok (moved.after here)
      | none => .error .leftOfStart
    else if (op = loopStart ∧ cell = 0) ∨ (op = loopEnd ∧ cell ≠ 0) then
      match program.jump[here]? with
      | some partner => .ok (state.after partner)
      | none => .error .outOfRange
    else .ok (state.after here)

/-- Runs for at most `steps` steps; the program is over when the counter has
passed its last command. -/
def runFor (program : Program) (steps : Nat) (state : State) : Except Fault Bytes :=
  match steps with
  | 0 => .error .outOfSteps
  | steps + 1 =>
    match program.code[state.counter]? with
    | none => .ok state.printed.reverse
    | some op =>
      match step program op state with
      | .ok next => runFor program steps next
      | .error fault => .error fault

/-- Steps granted to a program: more than any straight program of its length
needs, and beyond that a trillion for its loops. -/
def budget (code : Bytes) : Nat :=
  code.length + 1000000000000

/-- What a program prints. -/
def run (code : Bytes) : Except Fault Bytes :=
  match Program.ofBytes? code with
  | none => .error .unbalanced
  | some program => runFor program (budget code) State.start

end QuineRelay.TapeMachine
