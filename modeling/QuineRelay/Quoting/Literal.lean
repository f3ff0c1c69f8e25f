import QuineRelay.Quoting.Escapes
import QuineRelay.Quoting.Fault

/-!
# One string literal

The payload as a single string literal, handed to a print statement. Some print
statements append a newline; for those the payload has to end with one, which
then stays out of the literal.
-/

namespace QuineRelay

/-- What a print statement does after the literal. -/
inductive Ending where
  /-- It prints the literal and nothing else. -/
  | exact
  /-- It appends a newline. -/
  | newline
  deriving DecidableEq, Repr

namespace Ending

/-- The part of a payload that goes into the literal. -/
def strip (ending : Ending) (language payload : Text) : Except GenerationError Text :=
  match ending with
  | .exact => .ok payload
  | .newline =>
    match Text.beforeEnding? "\n" payload with
    | some body => .ok body
    | none => .error (.missingTerminator language)

/-- Number of characters that `strip` takes off. -/
def stripped : Ending → Nat
  | .exact => 0
  | .newline => 1

/-- What the print statement appends. -/
def appended : Ending → Text
  | .exact => []
  | .newline => "\n"

end Ending

/-- A program that is one string literal between two fixed texts. -/
structure Literal where
  opening : Text
  closing : Text
  escapes : EscapeTable
  ending : Ending
  deriving DecidableEq, Repr

namespace Literal

/-- The program that prints `payload`. -/
def write (literal : Literal) (language payload : Text) : Except GenerationError Text := do
  let body ← literal.ending.strip language payload
  literal.escapes.checkAlphabet language body
  return literal.opening ++ literal.escapes.escape body ++ literal.closing

/-- What the program `source` prints. -/
def read (literal : Literal) (source : Text) : Except ReadFault Text :=
  match (Text.afterOpening? literal.opening source).bind (Text.beforeEnding? literal.closing) with
  | none => .error .malformed
  | some body =>
    match literal.escapes.readFrom none [] body with
    | .finished text _ => .ok (text ++ literal.ending.appended)
    | .malformed => .error .malformed
    | .endless => .error .endless

/-- What a source prints, if reading it ends within so many passes. -/
def readWithin (literal : Literal) (passes : Nat) (source : Text) :
    Option (Except ReadFault Text) :=
  match (Text.afterOpening? literal.opening source).bind (Text.beforeEnding? literal.closing) with
  | none => some (.error .malformed)
  | some body =>
    (Pass.within (literal.escapes.pass none) passes ⟨[], body⟩).map fun
      | some (text, _) => .ok (text ++ literal.ending.appended)
      | none => .error .malformed

end Literal

end QuineRelay
