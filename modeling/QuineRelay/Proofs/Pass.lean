import QuineRelay.Pass

/-!
# Loops that return

A loop returns within a number of passes when a potential goes down with each of them, and what
no pass changes is what it returns.
-/

namespace QuineRelay

namespace Pass

variable {State Result Value : Type} {pass : State → Pass State Result} {state last : State}
  {result : Result} {passes : Nat}

/-- The value of what a pass comes to, from a value of states and one of results. -/
def valueBy (value : State → Value) (answer : Result → Value) : Pass State Result → Value
  | .again next => value next
  | .done result => answer result

/-- What a pass keeps, all passes keep. -/
theorem keeps_after {kept : State → Prop}
    (hkeeps : ∀ state next, kept state → pass state = .again next → kept next)
    (hstate : kept state) (h : after pass passes state = some last) : kept last := by
  induction passes generalizing state with
  | zero => exact Option.some.inj h ▸ hstate
  | succ passes ih =>
      rw [after] at h
      split at h
      · rename_i next hnext
        exact ih (hkeeps state next hstate hnext) h
      · cases h

/-- A loop whose passes lower a potential returns before the potential is used up. -/
theorem exists_within_of_potential (potential : State → Nat)
    (hlower : ∀ state next, pass state = .again next → potential next < potential state)
    (h : potential state < passes) : ∃ result, within pass passes state = some result := by
  induction passes generalizing state with
  | zero => exact absurd h (Nat.not_lt_zero _)
  | succ passes ih =>
      rw [within]
      split
      · rename_i next hnext
        have := hlower state next hnext
        exact ih (by omega)
      · rename_i result _
        exact ⟨result, rfl⟩

/-- A value that no pass changes is what the loop returns. -/
theorem value_eq_of_within {value : State → Value} {answer : Result → Value}
    (hvalue : ∀ state, value state = (pass state).valueBy value answer)
    (h : within pass passes state = some result) : value state = answer result := by
  induction passes generalizing state with
  | zero => cases h
  | succ passes ih =>
      rw [within] at h
      rw [hvalue]
      split at h
      · rename_i next hnext
        rw [hnext]
        exact ih h
      · rename_i hreturn
        rw [hreturn, ← Option.some.inj h]
        rfl

/-- What holds of the results of passes holds of the result of the loop. -/
theorem of_within (p : Result → Prop)
    (hdone : ∀ state result, pass state = .done result → p result)
    (h : within pass passes state = some result) : p result := by
  induction passes generalizing state with
  | zero => cases h
  | succ passes ih =>
      rw [within] at h
      split at h
      · exact ih h
      · rename_i hreturn
        exact Option.some.inj h ▸ hdone state _ hreturn

end Pass

end QuineRelay
