import QuineRelay.Text.Quoted
import QuineRelay.Text.Utf8

/-!
# Payloads

A payload is the exact bytes a stage must print. Usually they are text, but they
need not be. Two payloads are compared by the first place at which they part.
-/

namespace QuineRelay.Payload

/-- Offset at which two payloads part, counting from `offset`. -/
def firstDivergenceFrom (offset : Nat) : Bytes → Bytes → Option Nat
  | [], [] => none
  | a :: as, b :: bs => if a = b then firstDivergenceFrom (offset + 1) as bs else some offset
  | _, _ => some offset

/-- Offset of the first byte at which two payloads differ. When one continues
the other, that is the length of the shorter one; equal payloads never part. -/
def firstDivergence (expected actual : Bytes) : Option Nat :=
  firstDivergenceFrom 0 expected actual

/-- Number of bytes that a summary shows. -/
def previewLength : Nat := 48

/-- A payload for diagnostics: all of a short one, the beginning and the length
of a long one. -/
def summary (bytes : Bytes) : Text :=
  if bytes.length ≤ previewLength then
    "Payload(" ++ Text.quoted (Utf8.decodeLossy bytes) ++ ")"
  else
    "Payload(" ++ Text.quoted (Utf8.decodeLossy (bytes.take previewLength)) ++ ".. "
      ++ Text.decimal bytes.length ++ " bytes)"

end QuineRelay.Payload
