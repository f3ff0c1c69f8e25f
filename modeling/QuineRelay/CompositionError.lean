import QuineRelay.GenerationError

/-!
# Why a relay cannot be composed

A relay fails as a whole: there is no relay with some of its stages.
-/

namespace QuineRelay

/-- Why there is no relay. -/
inductive CompositionError where
  /-- No language besides the origin was chosen. -/
  | emptyRoute
  /-- No standard language answers to a name. -/
  | unknownLanguage (name : Text)
  /-- The source of a stage cannot be generated. -/
  | generation (stage : Nat) (cause : GenerationError)
  deriving DecidableEq, Repr

/-- The wording of a cause. -/
def CompositionError.message : CompositionError → Text
  | .emptyRoute => "a relay needs at least one language besides the origin"
  | .unknownLanguage name => "unknown language `" ++ name ++ "`"
  | .generation stage cause =>
    "cannot generate stage " ++ Text.decimal stage ++ ": " ++ cause.message

end QuineRelay
