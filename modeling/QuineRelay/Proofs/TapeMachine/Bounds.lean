import QuineRelay.Proofs.TapeMachine.Pairing

/-!
# Runs stay in bounds

A run of a paired program never leaves its tables: the pointer is on the tape, the counter is
at a command or right after the last, and a jump leads to a command. One lemma says that a
step keeps this, or moves left at the first cell, and every state that a run reaches has it by
induction on the steps. So a run of any length ends with an output, ends at a move left of the
first cell, or uses up its steps; which of these it is, the states that it reaches tell.
-/

namespace QuineRelay.TapeMachine

/-- The machine at `state` is at `last` after so many steps. -/
inductive Reaches (program : Program) : (steps : Nat) → (state last : State) → Prop
  | refl (state : State) : Reaches program 0 state state
  | step {steps : Nat} {state next last : State} {op : UInt8}
      (hop : program.code[state.counter]? = some op) (hstep : step program op state = .ok next)
      (hrest : Reaches program steps next last) : Reaches program (steps + 1) state last

/-- The pointer is on the tape, and the counter is not behind the end of the program. -/
structure InBounds (program : Program) (state : State) : Prop where
  pointer_lt : state.pointer < state.tape.size
  counter_le : state.counter ≤ program.code.size

/-- Every command has an entry in the table of jumps, and every entry is the place of a
command. -/
structure Program.Closed (program : Program) : Prop where
  size_eq : program.jump.size = program.code.size
  lt_size : ∀ target ∈ program.jump, target < program.code.size

variable {program : Program} {state next last : State} {op : UInt8} {steps : Nat} {fault : Fault}
  {code : Bytes}

/-! ## Programs -/

theorem ofBytes?_eq_some_iff :
    Program.ofBytes? code = some program ↔
      pairBrackets code = some program.jump ∧ program.code = code.toArray := by
  rw [Program.ofBytes?, Option.map_eq_some_iff]
  constructor
  · rintro ⟨jump, hjump, rfl⟩
    exact ⟨hjump, rfl⟩
  · rintro ⟨hjump, hcode⟩
    exact ⟨program.jump, hjump, by rw [← hcode]⟩

theorem Program.closed_of_ofBytes? (h : Program.ofBytes? code = some program) :
    program.Closed := by
  obtain ⟨hjump, hcode⟩ := ofBytes?_eq_some_iff.1 h
  obtain ⟨hscanned, hsize⟩ := scanned_of_pairBrackets hjump
  have hsize' : program.jump.size = program.code.size := by
    rw [hsize, hcode, List.size_toArray]
  exact ⟨hsize', hsize' ▸ hscanned.lt_size⟩

/-! ## One step -/

theorem InBounds.start : InBounds program .start where
  pointer_lt := Nat.zero_lt_one
  counter_le := Nat.zero_le _

/-- Going on with the command after one of the program stays in bounds. -/
theorem InBounds.after (h : InBounds program state) {index : Nat}
    (hindex : index < program.code.size) : InBounds program (state.after index) where
  pointer_lt := h.pointer_lt
  counter_le := hindex

theorem InBounds.put (h : InBounds program state) (cell : UInt8) :
    InBounds program (state.put cell) where
  pointer_lt := by
    rw [State.put, Array.size_setIfInBounds]
    exact h.pointer_lt
  counter_le := h.counter_le

theorem InBounds.emit (h : InBounds program state) (cell : UInt8) :
    InBounds program (state.emit cell) where
  pointer_lt := h.pointer_lt
  counter_le := h.counter_le

/-- The tape grows with the pointer. -/
theorem InBounds.right (h : InBounds program state) : InBounds program state.right where
  pointer_lt := by
    have := h.pointer_lt
    rw [State.right]
    dsimp only
    split
    · rw [Array.size_push]
      omega
    · omega
  counter_le := h.counter_le

theorem InBounds.left (h : InBounds program state) (hleft : state.left? = some next) :
    InBounds program next := by
  rw [State.left?] at hleft
  split at hleft
  · cases hleft
  · obtain rfl := Option.some.inj hleft
    exact ⟨Nat.lt_of_le_of_lt (Nat.sub_le _ _) h.pointer_lt, h.counter_le⟩

theorem left?_eq_none_iff : state.left? = none ↔ state.pointer = 0 := by
  rw [State.left?]
  split <;> simp [*]

/-- A command has an entry in the table of jumps, which leads to a command. -/
theorem Program.Closed.exists_target (h : program.Closed) {index : Nat}
    (hindex : index < program.code.size) :
    ∃ target, program.jump[index]? = some target ∧ target < program.code.size := by
  rw [← h.size_eq] at hindex
  exact ⟨_, Array.getElem?_eq_getElem hindex, h.lt_size _ (Array.getElem_mem hindex)⟩

/-- A step stays in bounds, unless it is a move left at the first cell. -/
theorem InBounds.step (h : InBounds program state) (hclosed : program.Closed)
    (hop : program.code[state.counter]? = some op) :
    (∃ next, step program op state = .ok next ∧ InBounds program next) ∨
      op = moveLeft ∧ state.pointer = 0 ∧ step program op state = .error .leftOfStart := by
  have hcounter : state.counter < program.code.size := (Array.getElem?_eq_some_iff.1 hop).1
  obtain ⟨cell, hcell⟩ : ∃ cell, state.tape[state.pointer]? = some cell :=
    ⟨_, Array.getElem?_eq_getElem h.pointer_lt⟩
  rw [TapeMachine.step, hcell]
  dsimp only
  split
  · exact .inl ⟨_, rfl, (h.put _).after hcounter⟩
  split
  · exact .inl ⟨_, rfl, (h.put _).after hcounter⟩
  split
  · exact .inl ⟨_, rfl, (h.emit _).after hcounter⟩
  split
  · exact .inl ⟨_, rfl, h.right.after hcounter⟩
  split
  · rename_i hleft
    cases hmoved : state.left? with
    | none => exact .inr ⟨hleft, left?_eq_none_iff.1 hmoved, rfl⟩
    | some moved => exact .inl ⟨_, rfl, (h.left hmoved).after hcounter⟩
  split
  · obtain ⟨target, htarget, hlt⟩ := hclosed.exists_target hcounter
    rw [htarget]
    exact .inl ⟨_, rfl, h.after hlt⟩
  · exact .inl ⟨_, rfl, h.after hcounter⟩

/-- A move left at the first cell fails. -/
theorem InBounds.step_moveLeft (h : InBounds program state) (hpointer : state.pointer = 0) :
    TapeMachine.step program moveLeft state = .error .leftOfStart := by
  have hcell := Array.getElem?_eq_getElem h.pointer_lt
  rw [TapeMachine.step, hcell]
  dsimp only
  rw [if_neg (by decide), if_neg (by decide), if_neg (by decide), if_neg (by decide), if_pos rfl,
    left?_eq_none_iff.2 hpointer]

/-- The only fault of a step in bounds is a move left at the first cell. -/
theorem InBounds.step_eq_error_iff (h : InBounds program state) (hclosed : program.Closed)
    (hop : program.code[state.counter]? = some op) :
    TapeMachine.step program op state = .error fault ↔
      fault = .leftOfStart ∧ op = moveLeft ∧ state.pointer = 0 := by
  constructor
  · intro hfault
    rcases h.step hclosed hop with ⟨next, hnext, -⟩ | ⟨hleft, hpointer, herror⟩
    · rw [hnext] at hfault
      cases hfault
    · exact ⟨(Except.error.inj (herror.symm.trans hfault)).symm, hleft, hpointer⟩
  · rintro ⟨rfl, rfl, hpointer⟩
    exact h.step_moveLeft hpointer

/-! ## Runs -/

/-- What a run of so many steps ends with. -/
inductive Ends (program : Program) (steps : Nat) (state : State) : Except Fault Bytes → Prop
  /-- The counter has passed the last command. -/
  | finished {n : Nat} {last : State} (hlt : n < steps) (hreaches : Reaches program n state last)
      (hover : program.code[last.counter]? = none) :
      Ends program steps state (.ok last.printed.reverse)
  /-- The pointer is at the first cell and the command moves left. -/
  | leftOfStart {n : Nat} {last : State} (hlt : n < steps)
      (hreaches : Reaches program n state last)
      (hop : program.code[last.counter]? = some moveLeft) (hpointer : last.pointer = 0) :
      Ends program steps state (.error .leftOfStart)
  /-- All steps were taken. -/
  | outOfSteps {last : State} (hreaches : Reaches program steps state last) :
      Ends program steps state (.error .outOfSteps)

/-- What a run reaches is in bounds. -/
theorem Reaches.inBounds (hreaches : Reaches program steps state last) (hclosed : program.Closed)
    (h : InBounds program state) : InBounds program last := by
  induction hreaches with
  | refl => exact h
  | step hop hstep hrest ih =>
      rcases h.step hclosed hop with ⟨next, hnext, hbounds⟩ | ⟨-, -, herror⟩
      · rw [hnext] at hstep
        exact ih (Except.ok.inj hstep ▸ hbounds)
      · rw [herror] at hstep
        cases hstep

/-- A run goes on from what it reaches. -/
theorem Reaches.runFor_add (hreaches : Reaches program steps state last) (more : Nat) :
    runFor program (steps + more) state = runFor program more last := by
  induction hreaches with
  | refl => rw [Nat.zero_add]
  | @step steps state next last op hop hstep hrest ih =>
      rw [Nat.add_right_comm, runFor, hop]
      dsimp only
      rw [hstep]
      exact ih

/-- A step before a run. -/
theorem Ends.step {result : Except Fault Bytes} (hop : program.code[state.counter]? = some op)
    (hstep : TapeMachine.step program op state = .ok next) (h : Ends program steps next result) :
    Ends program (steps + 1) state result := by
  cases h with
  | finished hlt hreaches hover =>
      exact .finished (Nat.succ_lt_succ hlt) (hreaches.step hop hstep) hover
  | leftOfStart hlt hreaches hleft hpointer =>
      exact .leftOfStart (Nat.succ_lt_succ hlt) (hreaches.step hop hstep) hleft hpointer
  | outOfSteps hreaches => exact .outOfSteps (hreaches.step hop hstep)

/-- A run in bounds ends. -/
theorem InBounds.ends (h : InBounds program state) (hclosed : program.Closed) (steps : Nat) :
    Ends program steps state (runFor program steps state) := by
  induction steps generalizing state with
  | zero => exact .outOfSteps (.refl state)
  | succ steps ih =>
      rw [runFor]
      split
      · rename_i hover
        exact .finished (Nat.succ_pos steps) (.refl state) hover
      · rename_i op hop
        rcases h.step hclosed hop with ⟨next, hnext, hbounds⟩ | ⟨rfl, hpointer, herror⟩
        · rw [hnext]
          exact (ih hbounds).step hop hnext
        · rw [herror]
          exact .leftOfStart (Nat.succ_pos steps) (.refl state) hop hpointer

/-- A run in bounds has one end, which the states that it reaches tell. -/
theorem InBounds.runFor_eq_iff (h : InBounds program state) (hclosed : program.Closed)
    {result : Except Fault Bytes} :
    runFor program steps state = result ↔ Ends program steps state result := by
  constructor
  · rintro rfl
    exact h.ends hclosed steps
  · intro hends
    cases hends with
    | @finished n last hlt hreaches hover =>
        obtain ⟨more, rfl⟩ := Nat.exists_eq_add_of_lt hlt
        rw [Nat.add_assoc, hreaches.runFor_add, runFor, hover]
    | @leftOfStart n last hlt hreaches hop hpointer =>
        obtain ⟨more, rfl⟩ := Nat.exists_eq_add_of_lt hlt
        have hlast := hreaches.inBounds hclosed h
        rw [Nat.add_assoc, hreaches.runFor_add, runFor, hop]
        dsimp only
        rw [hlast.step_moveLeft hpointer]
    | outOfSteps hreaches =>
        have hrun := hreaches.runFor_add 0
        rwa [Nat.add_zero, runFor] at hrun

/-- A program is refused just when its brackets are not balanced. -/
theorem run_eq_unbalanced_iff : run code = .error .unbalanced ↔ ¬ Balanced code := by
  rw [← pairBrackets_eq_none_iff, run]
  cases hprogram : Program.ofBytes? code with
  | none =>
      rw [Program.ofBytes?, Option.map_eq_none_iff] at hprogram
      simp [hprogram]
  | some program =>
      have hclosed := Program.closed_of_ofBytes? hprogram
      have hpaired := (ofBytes?_eq_some_iff.1 hprogram).1
      have hrun := InBounds.start.ends hclosed (budget code)
      simp only [hpaired, reduceCtorEq, iff_false]
      intro hunbalanced
      rw [hunbalanced] at hrun
      cases hrun

/-- The brackets of a program are paired just when they are balanced, and then the program
runs in bounds. The table leads from each bracket to its partner, and is the only pairing in
which no two pairs cross. Whatever state the machine reaches, after however many steps, the
pointer is on the tape, the counter is at a command or right after the last, and the only
fault of the next command is a move left at the first cell. So a run is over, or moves left
there, or takes all its steps. -/
theorem paired_program_stays_in_bounds (code : Bytes) :
    (pairBrackets code = none ↔ ¬ Balanced code) ∧
    (run code = .error .unbalanced ↔ ¬ Balanced code) ∧
    ∀ program, Program.ofBytes? code = some program →
      -- The table.
      program.code = code.toArray ∧ program.jump.size = code.length ∧
      (∀ target ∈ program.jump, target < code.length) ∧
      (∀ first, code[first]? = some loopStart →
        ∃ last, first < last ∧ program.jump[first]? = some last ∧
          program.jump[last]? = some first ∧ code[last]? = some loopEnd ∧
          Balanced (between code first last)) ∧
      (∀ pairs, IsNesting code pairs ↔ ∀ first last,
        pairs first last ↔ code[first]? = some loopStart ∧ program.jump[first]? = some last) ∧
      -- The runs.
      (∀ steps state, Reaches program steps .start state →
        state.pointer < state.tape.size ∧ state.counter ≤ code.length ∧
          ∀ op fault, program.code[state.counter]? = some op →
            (step program op state = .error fault ↔
              fault = .leftOfStart ∧ op = moveLeft ∧ state.pointer = 0)) ∧
      ∀ steps result,
        runFor program steps .start = result ↔ Ends program steps .start result := by
  refine ⟨pairBrackets_eq_none_iff, run_eq_unbalanced_iff, fun program hprogram => ?_⟩
  obtain ⟨hpaired, hcode⟩ := ofBytes?_eq_some_iff.1 hprogram
  obtain ⟨hscanned, hsize⟩ := scanned_of_pairBrackets hpaired
  have hclosed := Program.closed_of_ofBytes? hprogram
  have hlength : program.code.size = code.length := by rw [hcode, List.size_toArray]
  refine ⟨hcode, hsize, hsize ▸ hscanned.lt_size, fun first hfirst => ?_,
    fun pairs => hscanned.isNesting_iff, fun steps state hreaches => ?_,
    fun steps result => InBounds.start.runFor_eq_iff hclosed⟩
  · obtain ⟨last, hpartners, hjoined⟩ := hscanned.partners_of_opening hfirst
    exact ⟨last, hpartners.lt, hjoined.forth, hjoined.back, hpartners.closing,
      hpartners.balanced⟩
  · have hbounds := hreaches.inBounds hclosed .start
    exact ⟨hbounds.pointer_lt, hlength ▸ hbounds.counter_le,
      fun op fault hop => hbounds.step_eq_error_iff hclosed hop⟩

/-- A loop in a loop, and a move left of the first cell after both. -/
def nested : Bytes :=
  [increment, loopStart, moveRight, loopStart, decrement, loopEnd, moveLeft, decrement, loopEnd,
    moveLeft]

/-- The outer loop goes from place one to place eight with balanced code inside, and the
program fails at the first cell after it left both loops. -/
theorem paired_program_stays_in_bounds_nested :
    ∃ program, Program.ofBytes? nested = some program ∧ program.jump[1]? = some 8 ∧
      program.jump[8]? = some 1 ∧ Balanced (between nested 1 8) ∧
      ∃ n last, n < 20 ∧ Reaches program n .start last ∧
        program.code[last.counter]? = some moveLeft ∧ last.pointer = 0 := by
  have hprogram : Program.ofBytes? nested
      = some { code := nested.toArray, jump := #[0, 8, 0, 5, 0, 3, 0, 0, 1, 0] } := rfl
  obtain ⟨-, -, hpaired⟩ := paired_program_stays_in_bounds nested
  obtain ⟨-, -, -, hpartners, -, -, hruns⟩ := hpaired _ hprogram
  obtain ⟨last, -, hforth, hback, -, hbalanced⟩ := hpartners 1 rfl
  obtain rfl : 8 = last := Option.some.inj hforth
  refine ⟨_, hprogram, rfl, hback, hbalanced, ?_⟩
  have hends := (hruns 20 (.error .leftOfStart)).1 rfl
  cases hends with
  | @leftOfStart n last hlt hreaches hop hpointer => exact ⟨n, last, hlt, hreaches, hop, hpointer⟩

end QuineRelay.TapeMachine
