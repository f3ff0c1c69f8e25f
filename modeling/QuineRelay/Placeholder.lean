import QuineRelay.Text.Numeral

/-!
# Placeholders

The origin stores its program as the words of a word list, where white space
separates words and a backslash changes the next character. `substitute`
replaces those bytes by placeholders, each a backtick and a one-byte code, and
doubles the backtick itself, so the stored text is one unbroken word sequence.
`restore` undoes this and reports the first backtick without a known code.

All bytes involved are ASCII, so no character of a text is ever divided.
-/

namespace QuineRelay.Placeholder

/-- Opens every placeholder. -/
def mark : UInt8 := 0x60

/-- The replaced bytes and their codes: the mark itself, space, newline, tab,
carriage return and backslash. -/
def codes : List (UInt8 × UInt8) :=
  [(mark, mark), (0x20, 0x5F), (0x0A, 0x6E), (0x09, 0x74), (0x0D, 0x72), (0x5C, 0x2F)]

/-- The code of a byte, if it is replaced. -/
def code? (b : UInt8) : Option UInt8 :=
  codes.lookup b

/-- The byte that a code stands for. -/
def byte? (code : UInt8) : Option UInt8 :=
  (codes.find? (·.2 == code)).map (·.1)

/-- One byte as it is stored. -/
def substituteByte (b : UInt8) : Bytes :=
  match code? b with
  | some code => [mark, code]
  | none => [b]

/-- Bytes as they are stored. -/
def substitute (bytes : Bytes) : Bytes :=
  bytes.flatMap substituteByte

/-- Why stored bytes cannot be restored. -/
inductive Fault where
  /-- The mark at `offset` is the last byte. -/
  | dangling (offset : Nat)
  /-- The byte after the mark at `offset` is no code. -/
  | unknownCode (offset : Nat) (code : UInt8)
  deriving DecidableEq, Repr

/-- The wording of a fault. -/
def Fault.message : Fault → Text
  | .dangling offset =>
    "escape at offset " ++ Text.decimal offset ++ " is not followed by a code"
  | .unknownCode offset code =>
    "unknown placeholder code 0x" ++ Text.hexByte code ++ " at offset " ++ Text.decimal offset

/-- Restores bytes that start at `offset`; `done` is what was restored so far, in
reverse. -/
def restoreFrom (offset : Nat) (done : Bytes) : Bytes → Except Fault Bytes
  | [] => .ok done.reverse
  | b :: rest =>
    if b = mark then
      match rest with
      | [] => .error (.dangling offset)
      | code :: rest =>
        match byte? code with
        | some byte => restoreFrom (offset + 2) (byte :: done) rest
        | none => .error (.unknownCode offset code)
    else restoreFrom (offset + 1) (b :: done) rest

/-- The bytes that are stored as `bytes`. -/
def restore (bytes : Bytes) : Except Fault Bytes :=
  restoreFrom 0 [] bytes

/-- A byte as an expression of the origin's language: a string when it is a
printable character that needs no escape, its number otherwise. -/
def byteExpression (b : UInt8) : Text :=
  if 0x21 ≤ b ∧ b ≤ 0x7E ∧ b ≠ 0x5C ∧ b ≠ 0x22 then "\"" ++ [Char.ofNat b.toNat] ++ "\""
  else Text.decimal b.toNat ++ ".chr"

/-- The method call by which the origin restores its stored program. It holds no
white space and no backslash, so it can stand beside the stored text. -/
def restorer : Text :=
  ".gsub(/" ++ [Char.ofNat mark.toNat] ++ "(.)/)\x7b["
    ++ Text.join "," (codes.map fun entry => byteExpression entry.1) ++ "][\""
    ++ codes.map (fun entry => Char.ofNat entry.2.toNat) ++ "\".index($1)]\x7d"

end QuineRelay.Placeholder
