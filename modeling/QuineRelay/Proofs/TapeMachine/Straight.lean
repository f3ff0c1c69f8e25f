import QuineRelay.TapeMachine

/-!
# Programs that stay on one cell

A command is straight when it neither moves the pointer nor jumps. A program of
straight commands has no brackets to pair and needs one step for each of its
bytes, so it always ends, and what it prints is a function of its bytes alone.
The invariant of a run is that the machine stands on its only cell, has executed
the bytes so far, and has printed what the cell went through.
-/

namespace QuineRelay.TapeMachine

/-- The bytes that the machine does not ignore. -/
def commands : Bytes :=
  [increment, decrement, moveRight, moveLeft, print, loopStart, loopEnd]

/-- Whether a byte neither moves the pointer nor jumps. -/
def IsStraight (op : UInt8) : Prop :=
  op ≠ moveRight ∧ op ≠ moveLeft ∧ op ≠ loopStart ∧ op ≠ loopEnd

instance : DecidablePred IsStraight := fun op =>
  inferInstanceAs (Decidable (op ≠ moveRight ∧ op ≠ moveLeft ∧ op ≠ loopStart ∧ op ≠ loopEnd))

/-- The cell after a straight command. -/
def cellAfter (op cell : UInt8) : UInt8 :=
  if op = increment then cell + 1 else if op = decrement then cell - 1 else cell

/-- What a straight command prints. -/
def printedBy (op cell : UInt8) : Bytes :=
  if op = print then [cell] else []

/-- What a straight program prints when its cell holds `cell`. -/
def output (cell : UInt8) : Bytes → Bytes
  | [] => []
  | op :: rest => printedBy op cell ++ output (cellAfter op cell) rest

/-- The machine on its first and only cell. -/
def State.onCell (cell : UInt8) (counter : Nat) (printed : Bytes) : State :=
  { tape := #[cell], pointer := 0, counter, printed }

/-! ## Running -/

/-- Straight programs have no brackets to pair. -/
theorem pairBracketsFrom_straight {code : Bytes} (h : ∀ op ∈ code, IsStraight op) (index : Nat)
    (jump : Array Nat) : pairBracketsFrom index [] jump code = some jump := by
  induction code generalizing index with
  | nil => rfl
  | cons op code ih =>
      obtain ⟨hop, hcode⟩ := List.forall_mem_cons.1 h
      rw [pairBracketsFrom, if_neg hop.2.2.1, if_neg hop.2.2.2, ih hcode]

/-- A straight command changes the cell, prints, and goes on with the next one. -/
theorem step_straight {op : UInt8} (h : IsStraight op) (program : Program) (cell : UInt8)
    (counter : Nat) (printed : Bytes) :
    step program op (.onCell cell counter printed) =
      .ok (.onCell (cellAfter op cell) (counter + 1) ((printedBy op cell).reverse ++ printed)) := by
  obtain ⟨hright, hleft, hstart, hend⟩ := h
  by_cases hincrement : op = increment
  · subst hincrement
    rfl
  by_cases hdecrement : op = decrement
  · subst hdecrement
    rfl
  by_cases hprint : op = print
  · subst hprint
    rfl
  simp [step, State.onCell, State.after, cellAfter, printedBy, *]

/-- A straight program is over after as many steps as it has bytes, and has
printed what its cell went through. -/
theorem runFor_straight {program : Program} {front rest : Bytes}
    (hcode : program.code = (front ++ rest).toArray) (hstraight : ∀ op ∈ rest, IsStraight op)
    {steps : Nat} (hsteps : rest.length < steps) (cell : UInt8) (printed : Bytes) :
    runFor program steps (.onCell cell front.length printed) =
      .ok (printed.reverse ++ output cell rest) := by
  induction rest generalizing front steps cell printed with
  | nil =>
      obtain ⟨steps, rfl⟩ : ∃ n, steps = n + 1 := ⟨steps - 1, by omega⟩
      have hover : program.code[front.length]? = none := by simp [hcode]
      simp [runFor, State.onCell, hover, output]
  | cons op rest ih =>
      obtain ⟨steps, rfl⟩ : ∃ n, steps = n + 1 := ⟨steps - 1, by omega⟩
      obtain ⟨hop, hrest⟩ := List.forall_mem_cons.1 hstraight
      have hnext : program.code[front.length]? = some op := by simp [hcode]
      have hcode' : program.code = ((front ++ [op]) ++ rest).toArray := by simp [hcode]
      have hleft : rest.length < steps := by simpa using hsteps
      have hrun := ih hcode' hrest hleft (cellAfter op cell)
        ((printedBy op cell).reverse ++ printed)
      rw [List.length_append, List.length_singleton] at hrun
      rw [runFor, show (State.onCell cell front.length printed).counter = front.length from rfl,
        hnext]
      simp only [step_straight hop, hrun]
      simp [output]

/-- A straight program never fails, nor does it run out of steps. -/
theorem run_straight {code : Bytes} (h : ∀ op ∈ code, IsStraight op) :
    run code = .ok (output 0 code) := by
  let program : Program := { code := code.toArray, jump := Array.replicate code.length 0 }
  have hpair : Program.ofBytes? code = some program := by
    rw [Program.ofBytes?, pairBrackets, pairBracketsFrom_straight h]
    rfl
  have hcode : program.code = ([] ++ code).toArray := rfl
  have hsteps : code.length < budget code := by simp [budget]
  rw [run, hpair]
  exact runFor_straight hcode h hsteps 0 []

/-! ## What is printed -/

theorem isStraight_of_notMem {op : UInt8} (h : op ∉ commands) : IsStraight op := by
  simp only [commands, List.mem_cons, not_or] at h
  exact ⟨h.2.2.1, h.2.2.2.1, h.2.2.2.2.2.1, h.2.2.2.2.2.2.1⟩

/-- A byte that is no command neither changes the cell nor prints it. -/
theorem output_inert {code : Bytes} (h : ∀ op ∈ code, op ∉ commands) (cell : UInt8) (rest : Bytes) :
    output cell (code ++ rest) = output cell rest := by
  induction code with
  | nil => rfl
  | cons op code ih =>
      obtain ⟨hop, hcode⟩ := List.forall_mem_cons.1 h
      simp only [commands, List.mem_cons, not_or] at hop
      obtain ⟨hincrement, hdecrement, -, -, hprint, -⟩ := hop
      rw [List.cons_append, output, printedBy, cellAfter, if_neg hprint, if_neg hincrement,
        if_neg hdecrement, ih hcode]
      rfl

theorem output_increments (n : Nat) (cell : UInt8) (rest : Bytes) :
    output cell (List.replicate n increment ++ rest) = output (cell + UInt8.ofNat n) rest := by
  induction n generalizing cell with
  | zero => simp
  | succ n ih =>
      have hcell : cell + 1 + UInt8.ofNat n = cell + UInt8.ofNat (n + 1) := by
        rw [UInt8.ofNat_add, UInt8.add_assoc, UInt8.add_comm 1]
        rfl
      rw [List.replicate_succ, List.cons_append, output, cellAfter, if_pos rfl, ih, hcell]
      rfl

theorem output_decrements (n : Nat) (cell : UInt8) (rest : Bytes) :
    output cell (List.replicate n decrement ++ rest) = output (cell - UInt8.ofNat n) rest := by
  induction n generalizing cell with
  | zero => simp
  | succ n ih =>
      have hcell : cell - 1 - UInt8.ofNat n = cell - UInt8.ofNat (n + 1) := by
        rw [UInt8.ofNat_add]
        grind
      rw [List.replicate_succ, List.cons_append, output, cellAfter, if_neg (by decide), if_pos rfl,
        ih, hcell]
      rfl

end QuineRelay.TapeMachine
