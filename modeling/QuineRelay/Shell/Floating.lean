import QuineRelay.Shell.Number

/-!
# Floating-point numbers

Double-precision numbers as exact fractions: read from decimal or hexadecimal
text with one rounding to the nearest number, an exact tie going to the even one,
and written with any number of digits from their exact value.
-/

namespace QuineRelay.Shell

/-- A floating-point number. A finite one is `mantissa * 2 ^ exponent`. -/
inductive Floating where
  | finite (isNegative : Bool) (mantissa : Nat) (exponent : Int)
  | infinite (isNegative : Bool)
  | notANumber (isNegative : Bool)
  deriving DecidableEq, Repr

namespace Floating

/-- A power of a base. -/
def power (base n : Nat) : Nat :=
  Nat.pow base n

/-- A fraction that is `numerator * base ^ exponent`, as numerator and
denominator. -/
def scaled (numerator base : Nat) (exponent : Int) : Nat × Nat :=
  match exponent with
  | .ofNat n => (numerator * power base n, 1)
  | .negSucc n => (numerator, power base (n + 1))

/-- The quotient rounded to the nearest number, a tie going to the even one. -/
def roundDiv (numerator denominator : Nat) : Nat :=
  let quotient := numerator / denominator
  let twice := 2 * (numerator % denominator)
  if twice < denominator then quotient
  else if denominator < twice then quotient + 1
  else quotient + quotient % 2

/-- Number of digits of a number in a base, at least one. -/
def digitCount (base n : Nat) : Nat :=
  (Nat.toDigits base n).length

/-- Number of binary digits of a mantissa. -/
def precision : Nat := 53

/-- The smallest exponent of a number. -/
def leastExponent : Int := -1074

/-- The number nearest to a fraction, and whether it lies outside of what can be
told apart. -/
def nearest (isNegative : Bool) (numerator denominator : Nat) : Floating × Bool :=
  if numerator = 0 then (.finite isNegative 0 0, false)
  else
    let size : Int := (Nat.log2 numerator : Int) - (Nat.log2 denominator : Int)
    let guess := size - precision
    let exponentOf (exponent : Int) : Int :=
      if exponent < leastExponent then leastExponent else exponent
    let rounded (exponent : Int) : Nat :=
      match exponent with
      | .ofNat n => roundDiv numerator (denominator * power 2 n)
      | .negSucc n => roundDiv (numerator * power 2 (n + 1)) denominator
    let first := exponentOf guess
    let exponent :=
      if Nat.log2 (rounded first) < precision then first else exponentOf (guess + 1)
    let mantissa := rounded exponent
    let (mantissa, exponent) :=
      if Nat.log2 mantissa < precision then (mantissa, exponent)
      else (mantissa / 2, exponent + 1)
    if 971 < exponent then (.infinite isNegative, true)
    else
      let isTiny : Bool := exponent = leastExponent && Nat.log2 mantissa + 1 < precision
      let isExact : Bool := match exponent with
        | .ofNat n => numerator = mantissa * power 2 n * denominator
        | .negSucc n => numerator * power 2 (n + 1) = mantissa * denominator
      (.finite isNegative mantissa exponent, isTiny && !isExact)

/-- A number that was read: its value, whether it was out of range, and what
follows it. -/
structure Reading where
  value : Floating
  isOutOfRange : Bool
  rest : Text

/-- An exponent at the front of a text, behind one of the marks. -/
def exponentFrom (marks : List Char) (text : Text) : Int × Text :=
  match text with
  | c :: rest =>
    if marks.contains c then
      let (isNegative, digits) := match rest with
        | '-' :: digits => (true, digits)
        | '+' :: digits => (false, digits)
        | _ => (false, rest)
      let run := digits.takeWhile Char.isDigit
      if run.isEmpty then (0, text)
      else
        let size : Int := valueOf 10 run
        (if isNegative then -size else size, digits.drop run.length)
    else (0, text)
  | [] => (0, [])

/-- An exponent that is large enough to leave the range of all numbers whose
digits fill a text of this length. -/
def bounded (length : Nat) (exponent : Int) : Int :=
  let bound : Int := 5000 + 4 * length
  if exponent < -bound then -bound else if bound < exponent then bound else exponent

/-- The digits in a base around a point, with the number of those behind it. -/
def mantissaFrom? (base : Nat) (text : Text) : Option (Text × Nat × Text) :=
  let isDigit (c : Char) : Bool := (digitValue? base c).isSome
  let whole := text.takeWhile isDigit
  let rest := text.drop whole.length
  match rest with
  | '.' :: behind =>
    let part := behind.takeWhile isDigit
    if whole.isEmpty && part.isEmpty then none
    else some (whole ++ part, part.length, behind.drop part.length)
  | _ => if whole.isEmpty then none else some (whole, 0, rest)

/-- The word at the front of a text in small letters, when the text starts with
it in any case. -/
def afterWord? (word text : Text) : Option Text :=
  if (text.take word.length).map Char.toLower = word then some (text.drop word.length) else none

/-- Reads the number at the front of a text. -/
def read? (text : Text) : Option Reading :=
  let text := text.dropWhile isSpace
  let (isNegative, text) := match text with
    | '-' :: rest => (true, rest)
    | '+' :: rest => (false, rest)
    | _ => (false, text)
  let decimal : Option Reading := do
    let (digits, places, rest) ← mantissaFrom? 10 text
    let (exponent, rest) := exponentFrom ['e', 'E'] rest
    let exponent := bounded digits.length exponent - places
    let (numerator, denominator) := scaled (valueOf 10 digits) 10 exponent
    let (value, isOutOfRange) := nearest isNegative numerator denominator
    return { value, isOutOfRange, rest }
  let hexadecimal : Option Reading := do
    let behind ← afterWord? "0x" text
    let (digits, places, rest) ← mantissaFrom? 16 behind
    let (exponent, rest) := exponentFrom ['p', 'P'] rest
    let exponent := bounded digits.length exponent - 4 * places
    let (numerator, denominator) := scaled (valueOf 16 digits) 2 exponent
    let (value, isOutOfRange) := nearest isNegative numerator denominator
    return { value, isOutOfRange, rest }
  let special : Option Reading :=
    match afterWord? "infinity" text, afterWord? "inf" text, afterWord? "nan" text with
    | some rest, _, _ | none, some rest, _ =>
      some { value := .infinite isNegative, isOutOfRange := false, rest }
    | none, none, some rest => some { value := .notANumber isNegative, isOutOfRange := false, rest }
    | none, none, none => none
  hexadecimal.or (decimal.or special)

/-- Digits with a point before the last `places` of them. -/
def pointed (showsPoint : Bool) (places : Nat) (digits : Text) : Text :=
  let padded := List.replicate (places + 1 - digits.length) '0' ++ digits
  let whole := padded.take (padded.length - places)
  let part := padded.drop whole.length
  if part.isEmpty then (if showsPoint then whole ++ "." else whole) else whole ++ '.' :: part

/-- The text of `numerator / denominator` with a number of places. -/
def positional (showsPoint : Bool) (places numerator denominator : Nat) : Text :=
  pointed showsPoint places
    (Text.decimal (roundDiv (numerator * power 10 places) denominator))

/-- The first digits of a positive fraction, one more than `places`, and the power
of ten that the first of them counts. -/
def leadingDigits (places numerator denominator : Nat) : Text × Int :=
  let roundedTo (exponent : Int) : Nat :=
    match (places : Int) - exponent with
    | .ofNat n => roundDiv (numerator * power 10 n) denominator
    | .negSucc n => roundDiv numerator (denominator * power 10 (n + 1))
  let guess : Int := (digitCount 10 numerator : Int) - (digitCount 10 denominator : Int)
  let isBelow : Bool := match guess with
    | .ofNat n => numerator < denominator * power 10 n
    | .negSucc n => numerator * power 10 (n + 1) < denominator
  let exponent := if isBelow then guess - 1 else guess
  let digits := Text.decimal (roundedTo exponent)
  if places + 1 < digits.length then (digits.take (places + 1), exponent + 1)
  else (digits, exponent)

/-- The text of an exponent: a mark, a sign, and at least `least` digits. -/
def exponentText (mark : Char) (least : Nat) (exponent : Int) : Text :=
  let digits := Text.decimal exponent.natAbs
  mark :: (if exponent < 0 then '-' else '+')
    :: List.replicate (least - digits.length) '0' ++ digits

/-- The text of a fraction with one digit before the point. -/
def scientific (showsPoint : Bool) (places numerator denominator : Nat) : Text :=
  let (digits, exponent) :=
    if numerator = 0 then (List.replicate (places + 1) '0', 0)
    else leadingDigits places numerator denominator
  pointed showsPoint places digits ++ exponentText 'e' 2 exponent

/-- Digits without the zeros at the end of their part behind the point. -/
def withoutZeros (text : Text) : Text :=
  if text.contains '.' then
    let reversed := text.reverse.dropWhile (· = '0')
    (match reversed with
      | '.' :: rest => rest
      | _ => reversed).reverse
  else text

/-- The text of a fraction with a number of digits, in the shorter of the two
forms. -/
def general (showsPoint : Bool) (digits numerator denominator : Nat) : Text :=
  let digits := if digits = 0 then 1 else digits
  let trim (text : Text) : Text := if showsPoint then text else withoutZeros text
  let (leading, exponent) :=
    if numerator = 0 then (List.replicate digits '0', 0)
    else leadingDigits (digits - 1) numerator denominator
  if exponent < -4 || (digits : Int) ≤ exponent then
    trim (pointed showsPoint (digits - 1) leading) ++ exponentText 'e' 2 exponent
  else
    let places := ((digits : Int) - 1 - exponent).toNat
    trim (positional showsPoint places numerator denominator)

/-- The text of a number in base sixteen with a binary exponent; without `places`
there are as many digits as the number needs. -/
def hexadecimal (showsPoint : Bool) (places : Option Nat) (mantissa : Nat) (exponent : Int) :
    Text :=
  let isNormal : Bool := precision ≤ Nat.log2 mantissa + 1
  let (bits, exponent) : Nat × Int :=
    if mantissa = 0 then (0, 0)
    else
      let shift := precision - 1 - Nat.log2 mantissa
      if isNormal || leastExponent < exponent then
        (mantissa * power 2 shift, exponent - shift + 52)
      else (mantissa, -1022)
  let text := match places with
    | some places =>
      let bits :=
        if places < 13 then roundDiv bits (power 16 (13 - places))
        else bits * power 16 (places - 13)
      pointed showsPoint places (Nat.toDigits 16 bits)
    | none =>
      let text := withoutZeros (pointed false 13 (Nat.toDigits 16 bits))
      if showsPoint && !text.contains '.' then text ++ "." else text
  "0x" ++ text ++ exponentText 'p' 1 exponent

end Floating

end QuineRelay.Shell
