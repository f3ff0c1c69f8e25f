import QuineRelay.Quoting.Fault
import QuineRelay.Text.Utf8

/-!
# A tape program

The payload as a program of the tape machine that stays on one cell: for each
byte it moves the cell up or down from the byte before, then prints it. Any byte
sequence can be written this way. The machine ignores all bytes but its eight
commands, so the fixed texts around the program do nothing as long as they
contain none.
-/

namespace QuineRelay

/-- A tape program between two fixed texts. -/
structure TapeForm where
  opening : Text
  closing : Text
  deriving DecidableEq, Repr

namespace TapeForm

/-- The commands that print `byte` on a cell that holds `last`. -/
def stride (last byte : UInt8) : Text :=
  if last ≤ byte then List.replicate (byte - last).toNat '+' ++ ['.']
  else List.replicate (last - byte).toNat '-' ++ ['.']

/-- The commands that print `payload` on a fresh cell. -/
def body (payload : Bytes) : Text :=
  (List.zipWith stride (0 :: payload) payload).flatten

/-- The program that prints `payload`. -/
def write (form : TapeForm) (payload : Bytes) : Text :=
  form.opening ++ body payload ++ form.closing

/-- What the program `source` prints. -/
def read (source : Text) : Except ReadFault Bytes :=
  (TapeMachine.run (Utf8.encode source)).mapError .machine

end TapeForm

end QuineRelay
