import QuineRelay.Lambda
import QuineRelay.Lambda.Argument
import QuineRelay.Quoting

/-!
# Calls of the lambdas

For every quoting there is a call of a lambda that does at run time what the
quoting does when it writes. A call wraps an expression for the payload, and the
calls of a relay nest. `apply` evaluates a call from the text of its arguments
alone, the way the lambda would.
-/

namespace QuineRelay

/-- A call of a lambda, without the payload. No lambda means that the payload is
left as it is. -/
structure Call where
  lambda : Option Lambda
  /-- The expressions for every argument after the payload. -/
  arguments : List Text
  deriving DecidableEq, Repr

namespace Call

/-- The call that leaves the payload as it is. -/
def identity : Call :=
  { lambda := none, arguments := [] }

/-- What stands before the payload. -/
def opening (call : Call) : Text :=
  match call.lambda with
  | some lambda => lambda.name ++ "["
  | none => []

/-- What stands after the payload. -/
def closing (call : Call) : Text :=
  match call.lambda with
  | some _ => (call.arguments.flatMap fun argument => ',' :: argument) ++ "]"
  | none => []

/-- The call applied to the expression `inner`. -/
def wrap (call : Call) (inner : Text) : Text :=
  call.opening ++ inner ++ call.closing

/-- `text` with every character that is a key of `table` replaced. -/
def replaceKeys (table : List (Text × Text)) (text : Text) : Text :=
  text.flatMap fun c => (table.lookup [c]).getD [c]

/-- The commands that take a cell from `last` over the bytes, one after the
other; `done` is what has been written so far, in reverse. The lambda counts in
whole numbers, so a step down is a negative difference. -/
def stridesFrom (last : Int) (done : Text) : Bytes → Text
  | [] => done.reverse
  | b :: rest =>
    let byte : Int := b.toNat
    let delta := byte - last
    let strokes :=
      if 0 < delta then List.replicate delta.toNat '+' else List.replicate (-delta).toNat '-'
    stridesFrom byte ('.' :: (strokes ++ done)) rest

/-- The value of `lambda` on `input` and decoded arguments; none when they are
not what the lambda takes or more characters are to be dropped than there are. -/
def evaluate (lambda : Lambda) (arguments : List Argument) (input : Text) : Option Text :=
  match lambda, arguments with
  | .escape, [.text opening, .text closing, .table table, .number dropped] =>
    if dropped ≤ input.length then
      some (opening ++ replaceKeys table (input.take (input.length - dropped)) ++ closing)
    else none
  | .pieces, [.text opening, .text closing, .text itemOpening, .text itemClosing,
      .text separator, .table table, .number width] =>
    let pieces := if 0 < width then Text.chunks width input else Text.keptLines input
    let items := pieces.map fun piece => itemOpening ++ replaceKeys table piece ++ itemClosing
    some (opening ++ Text.join separator items ++ closing)
  | .tape, [.text opening, .text closing] =>
    some (opening ++ stridesFrom 0 [] (Utf8.encode input) ++ closing)
  | _, _ => none

/-- The value of a call on `input`. -/
def apply (call : Call) (input : Text) : Except Argument.Fault Text :=
  match call.lambda with
  | none => .ok input
  | some lambda => do
    let arguments ← call.arguments.mapM Argument.parse
    match evaluate lambda arguments input with
    | some output => .ok output
    | none => .error .malformed

end Call

namespace Literal

/-- The call that writes the literal: the fixed texts, the escapes, and the
number of characters that stay out of it. -/
def call (literal : Literal) : Call :=
  { lambda := some .escape
    arguments := [Argument.ofText literal.opening, Argument.ofText literal.closing,
      Argument.ofTable literal.escapes, Text.decimal literal.ending.stripped] }

end Literal

namespace Pieces

/-- The call that writes the pieces; a width of zero stands for lines. -/
def call (pieces : Pieces) : Call :=
  { lambda := some .pieces
    arguments := [Argument.ofText pieces.opening, Argument.ofText pieces.closing,
      Argument.ofText pieces.itemOpening, Argument.ofText pieces.itemClosing,
      Argument.ofText pieces.separator, Argument.ofTable pieces.escapes,
      Text.decimal pieces.cut.widthOrZero] }

end Pieces

namespace TapeForm

/-- The call that writes the tape program. -/
def call (form : TapeForm) : Call :=
  { lambda := some .tape
    arguments := [Argument.ofText form.opening, Argument.ofText form.closing] }

end TapeForm

namespace Quoting

/-- The call that does at run time what the quoting writes. -/
def call : Quoting → Call
  | .literal form => form.call
  | .pieces form => form.call
  | .tape form => form.call
  | .verbatim _ => .identity

end Quoting

end QuineRelay
