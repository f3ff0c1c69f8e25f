import QuineRelay.TapeMachine

/-!
# Why a source prints nothing

Reading a source back can fail in three ways: it is not written as the language
writes its sources, reading it would never end, or it is a program of the tape
machine that goes wrong.
-/

namespace QuineRelay

/-- Why a source has no output. -/
inductive ReadFault where
  /-- The source does not have the form that the language writes. -/
  | malformed
  /-- Reading the source would go on forever. -/
  | endless
  /-- The tape machine stops with a fault. -/
  | machine (fault : TapeMachine.Fault)
  deriving DecidableEq, Repr

end QuineRelay
