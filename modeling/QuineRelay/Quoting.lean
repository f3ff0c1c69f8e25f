import QuineRelay.Quoting.Literal
import QuineRelay.Quoting.Pieces
import QuineRelay.Quoting.TapeForm
import QuineRelay.Quoting.Verbatim

/-!
# Quoting

The four ways a language can hold a payload. `write` gives the source of a
program that prints the payload, and `read` gives back what such a source
prints, trusting that every escape means what its table says.

A tape program prints any bytes. The other forms hold text, and refuse a payload
at its first byte that is not UTF-8.
-/

namespace QuineRelay

/-- How a language embeds a payload in a program. -/
inductive Quoting where
  | literal (form : Literal)
  | pieces (form : Pieces)
  | tape (form : TapeForm)
  | verbatim (form : Verbatim)
  deriving DecidableEq, Repr

namespace Quoting

/-- The text of a payload, for a language whose sources hold only text. -/
def asText (language : Text) (payload : Bytes) : Except GenerationError Text :=
  match Utf8.decode payload with
  | .ok text => .ok text
  | .error fault =>
    .error (.unrepresentable language fault.offset (payload.getD fault.offset 0))

/-- The source of a program that prints `payload`; `language` is named in
errors. -/
def write (quoting : Quoting) (language : Text) (payload : Bytes) : Except GenerationError Text :=
  match quoting with
  | .literal form => (asText language payload).bind (form.write language)
  | .pieces form => (asText language payload).bind (form.write language)
  | .tape form => .ok (form.write payload)
  | .verbatim form => (asText language payload).bind (form.write language)

/-- What the program `source` prints. -/
def read (quoting : Quoting) (source : Text) : Except ReadFault Bytes :=
  match quoting with
  | .literal form => (form.read source).map Utf8.encode
  | .pieces form => (form.read source).map Utf8.encode
  | .tape _ => TapeForm.read source
  | .verbatim form => (form.read source).map Utf8.encode

end Quoting

end QuineRelay
