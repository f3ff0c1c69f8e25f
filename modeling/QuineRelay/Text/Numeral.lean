import QuineRelay.Text.Basic

/-!
# Decimal and hexadecimal numerals

Counts and offsets are machine words of 64 bits. They are written in decimal
without leading zeros (`decimal`) and read with an optional plus sign and any
number of leading zeros (`word?`). Bytes are written as two lowercase
hexadecimal digits.
-/

namespace QuineRelay.Text

/-- One more than the largest count. -/
def wordLimit : Nat := UInt64.size

/-- The decimal digits of `n`. -/
def decimal (n : Nat) : Text :=
  Nat.toDigits 10 n

/-- The number that a nonempty run of ASCII digits spells. -/
def digits? (text : Text) : Option Nat :=
  if text.isEmpty || !text.all Char.isDigit then none else some (Nat.ofDigitChars 10 text 0)

/-- The count that `text` spells: digits after an optional plus sign, below
`wordLimit`. -/
def word? (text : Text) : Option Nat :=
  let digits := match text with
    | '+' :: rest => rest
    | _ => text
  (digits? digits).filter (· < wordLimit)

/-- The decimal digits of `n` with zeros before them up to `width` places. -/
def decimalPadded (width n : Nat) : Text :=
  List.replicate (width - (decimal n).length) '0' ++ decimal n

/-- The hexadecimal digits of `n`. -/
def hexadecimal (n : Nat) : Text :=
  Nat.toDigits 16 n

/-- The two lowercase hexadecimal digits of a byte. -/
def hexByte (b : UInt8) : Text :=
  [Nat.digitChar (b.toNat / 16), Nat.digitChar (b.toNat % 16)]

/-- The bytes one after the other, two digits each. -/
def hexBytes (bytes : Bytes) : Text :=
  bytes.flatMap hexByte

/-- The value of a hexadecimal digit of either case. -/
def hexDigit? (c : Char) : Option Nat :=
  if c.isDigit then some (c.toNat - '0'.toNat)
  else if 'a' ≤ c ∧ c ≤ 'f' then some (c.toNat - 'a'.toNat + 10)
  else if 'A' ≤ c ∧ c ≤ 'F' then some (c.toNat - 'A'.toNat + 10)
  else none

end QuineRelay.Text
