import QuineRelay.Shell.Octets
import QuineRelay.Text.Numeral

/-!
# Numbers

Reading numbers at the front of a text: white space, a sign, and digits in a base
that may be marked. Numbers have 64 bits. Arithmetic wraps around, and a numeral
that does not fit is read as the nearest number that does.
-/

namespace QuineRelay.Shell

/-- Number of different 64-bit words. -/
def wordCount : Nat := UInt64.size

/-- The largest signed number. -/
def greatest : Int := 9223372036854775807

/-- The smallest signed number. -/
def least : Int := -9223372036854775808

/-- The signed number that has the same 64 bits. -/
def wrap (n : Int) : Int :=
  Int.bmod n wordCount

/-- The unsigned number that has the same 64 bits. -/
def unsigned (n : Int) : Nat :=
  (n % (wordCount : Int)).toNat

/-- The nearest signed number. -/
def clamp (n : Int) : Int :=
  if n < least then least else if greatest < n then greatest else n

/-- The decimal text of a number. -/
def decimalInt (n : Int) : Text :=
  match n with
  | .ofNat n => Text.decimal n
  | .negSucc n => '-' :: Text.decimal (n + 1)

/-- The value of an octet as a digit of a base. -/
def digitValue? (base : Nat) (c : Char) : Option Nat :=
  let value :=
    if c.isDigit then c.toNat - '0'.toNat
    else if c.isLower then c.toNat - 'a'.toNat + 10
    else if c.isUpper then c.toNat - 'A'.toNat + 10
    else base
  if value < base then some value else none

/-- The number that digits of a base spell. -/
def valueOf (base : Nat) (digits : Text) : Nat :=
  digits.foldl (fun value c => value * base + (digitValue? base c).getD 0) 0

/-- The base that a text is marked with, and the text behind the mark. -/
def markedBase (text : Text) : Nat × Text :=
  let marked (base : Nat) (rest : Text) : Nat × Text :=
    if (rest.head?.bind (digitValue? base)).isSome then (base, rest) else (8, text)
  match text with
  | '0' :: 'x' :: rest | '0' :: 'X' :: rest => marked 16 rest
  | '0' :: 'b' :: rest | '0' :: 'B' :: rest => marked 2 rest
  | '0' :: _ => (8, text)
  | _ => (10, text)

/-- A number that was read. -/
structure Numeral where
  isNegative : Bool
  /-- The number without its sign. -/
  magnitude : Nat
  /-- What follows the number. -/
  rest : Text
  deriving DecidableEq, Repr

namespace Numeral

/-- The value of a numeral. -/
def value (numeral : Numeral) : Int :=
  if numeral.isNegative then -numeral.magnitude else numeral.magnitude

/-- Reads the number at the front of a text. Without a base the text marks its
own. -/
def read? (base : Option Nat) (text : Text) : Option Numeral :=
  let text := text.dropWhile isSpace
  let (isNegative, text) := match text with
    | '-' :: rest => (true, rest)
    | '+' :: rest => (false, rest)
    | _ => (false, text)
  let (base, text) := match base with
    | some base => (base, text)
    | none => markedBase text
  let digits := text.takeWhile fun c => (digitValue? base c).isSome
  if digits.isEmpty then none
  else some { isNegative, magnitude := valueOf base digits, rest := text.drop digits.length }

end Numeral

/-- The number that a text spells; white space may surround it, and a text of
white space spells zero unless a number is `required`. -/
def integer? (base : Option Nat) (required : Bool) (text : Text) : Option Int :=
  match Numeral.read? base text with
  | some numeral => if numeral.rest.all isSpace then some (clamp numeral.value) else none
  | none => if !required && text.all isSpace then some 0 else none

end QuineRelay.Shell
