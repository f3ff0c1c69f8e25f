/-!
# Loops

A loop makes passes, each of which takes it to a new state or returns. Run for a number of
passes, it need not end, so a loop can be laid out before it is known whether it ever returns.
-/

namespace QuineRelay

/-- What a pass of a loop comes to. -/
inductive Pass (State Result : Type) where
  /-- The loop goes on from a new state. -/
  | again (next : State)
  /-- The loop returns. -/
  | done (result : Result)

namespace Pass

variable {State Result : Type}

/-- The state that a loop is in after so many passes, unless it has returned. -/
def after (pass : State → Pass State Result) : Nat → State → Option State
  | 0, state => some state
  | passes + 1, state =>
    match pass state with
    | .again next => after pass passes next
    | .done _ => none

/-- The result of a loop that returns within so many passes. -/
def within (pass : State → Pass State Result) : Nat → State → Option Result
  | 0, _ => none
  | passes + 1, state =>
    match pass state with
    | .again next => within pass passes next
    | .done result => some result

end Pass

end QuineRelay
