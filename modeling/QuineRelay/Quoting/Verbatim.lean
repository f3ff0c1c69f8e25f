import QuineRelay.GenerationError
import QuineRelay.Quoting.Fault
import QuineRelay.Text.Utf8

/-!
# The payload itself

Some languages copy the text outside their code marks straight to the output, so
a payload is its own source. Only the sequences that would open a code block are
refused: some anywhere, some at the beginning alone.
-/

namespace QuineRelay

/-- The sequences that would make a language leave plain text. -/
structure Verbatim where
  /-- Refused anywhere. -/
  forbidden : List Text
  /-- Refused at the beginning. -/
  forbiddenOpenings : List Text
  deriving DecidableEq, Repr

namespace Verbatim

/-- Every place at which a forbidden sequence first occurs, in the order of the
list. -/
def occurrences (verbatim : Verbatim) (text : Text) : List (Nat × Text) :=
  verbatim.forbidden.filterMap fun sequence =>
    (Text.position? sequence text).map fun index => (index, sequence)

/-- The occurrence with the least index; of equal ones the first. -/
def earliest? : List (Nat × Text) → Option (Nat × Text)
  | [] => none
  | entry :: rest =>
    match earliest? rest with
    | some best => if best.1 < entry.1 then some best else some entry
    | none => some entry

/-- The program that prints `payload`: the payload, unless the language would
read code in it. A forbidden opening is reported before any other sequence. -/
def write (verbatim : Verbatim) (language payload : Text) : Except GenerationError Text :=
  match verbatim.forbiddenOpenings.find? (·.isPrefixOf payload) with
  | some sequence => .error (.forbiddenSequence language 0 sequence)
  | none =>
    match earliest? (verbatim.occurrences payload) with
    | some (index, sequence) =>
      .error (.forbiddenSequence language (Utf8.size (payload.take index)) sequence)
    | none => .ok payload

/-- Whether the language would read code in `source`. -/
def opensCode (verbatim : Verbatim) (source : Text) : Bool :=
  verbatim.forbiddenOpenings.any (·.isPrefixOf source)
    || verbatim.forbidden.any fun sequence => Text.holds sequence source

/-- What the program `source` prints. -/
def read (verbatim : Verbatim) (source : Text) : Except ReadFault Text :=
  if verbatim.opensCode source then .error .malformed else .ok source

end Verbatim

end QuineRelay
