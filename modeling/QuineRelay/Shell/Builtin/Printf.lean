import QuineRelay.Shell.Builtin.Escapes
import QuineRelay.Shell.Floating

/-!
# Formatted output

The command `printf`: a format is used again as long as there are arguments left,
and an argument that is missing counts as empty. Numbers that cannot be read are
reported, but what could be read of them is written all the same.
-/

namespace QuineRelay.Shell.Printf

/-- A conversion of a format: the marks before it, and its letter. -/
structure Conversion where
  flags : Text := []
  width : Nat := 0
  precision : Option Nat := none
  letter : Char

/-- Whether a flag is set. -/
def Conversion.has (conversion : Conversion) (flag : Char) : Bool :=
  conversion.flags.contains flag

/-- What was written and reported so far, and the arguments left. -/
structure Progress where
  arguments : List Text
  /-- The output, in reverse. -/
  output : Text := []
  /-- The complaints, last first. -/
  complaints : List Text := []
  /-- Whether some argument was asked for. -/
  hasAsked : Bool := false

/-- How the use of a format ends. -/
inductive Finish where
  | more
  /-- Nothing is written after this. -/
  | stopped
  | failed (message : Text)

namespace Progress

/-- Adds octets to the output. -/
def write (progress : Progress) (text : Text) : Progress :=
  { progress with output := text.reverse ++ progress.output }

/-- Adds a complaint. -/
def complain (progress : Progress) (message : Text) : Progress :=
  { progress with complaints := message :: progress.complaints }

/-- The next argument, if there is one. -/
def next (progress : Progress) : Option Text × Progress :=
  (progress.arguments.head?,
    { progress with arguments := progress.arguments.tail, hasAsked := true })

/-- Complains about a number that could not be read to its end. -/
def check (progress : Progress) (text : Text) (rest : Option Text) (isOutOfRange : Bool) :
    Progress :=
  match rest with
  | none =>
    if text.isEmpty then progress else progress.complain (text ++ ": expected numeric value")
  | some [] =>
    if isOutOfRange then progress.complain (text ++ ": Numerical result out of range") else progress
  | some (_ :: _) => progress.complain (text ++ ": not completely converted")

end Progress

/-- The code of the character behind a quotation mark. -/
def quotedCode? (text : Text) : Option Nat :=
  match text with
  | c :: rest => if c = '"' || c = '\'' then some ((rest.head?.map Char.toNat).getD 0) else none
  | [] => none

/-- The next argument as a signed number. -/
def signedArgument (progress : Progress) : Int × Progress :=
  match progress.next with
  | (none, progress) => (0, progress)
  | (some text, progress) =>
    match quotedCode? text with
    | some code => (code, progress)
    | none =>
      match Numeral.read? none text with
      | none => (0, progress.check text none false)
      | some numeral =>
        let n := clamp numeral.value
        (n, progress.check text (some numeral.rest) (n ≠ numeral.value))

/-- The next argument as an unsigned number. A sign turns it round. -/
def unsignedArgument (progress : Progress) : Nat × Progress :=
  match progress.next with
  | (none, progress) => (0, progress)
  | (some text, progress) =>
    match quotedCode? text with
    | some code => (code, progress)
    | none =>
      match Numeral.read? none text with
      | none => (0, progress.check text none false)
      | some numeral =>
        let isOutOfRange : Bool := wordCount ≤ numeral.magnitude
        let n := if isOutOfRange then wordCount - 1 else unsigned numeral.value
        (n, progress.check text (some numeral.rest) isOutOfRange)

/-- The next argument as a floating-point number. -/
def floatingArgument (progress : Progress) : Floating × Progress :=
  match progress.next with
  | (none, progress) => (.finite false 0 0, progress)
  | (some text, progress) =>
    match quotedCode? text with
    | some code => (.finite false code 0, progress)
    | none =>
      match Floating.read? text with
      | none => (.finite false 0 0, progress.check text none false)
      | some reading =>
        (reading.value, progress.check text (some reading.rest) reading.isOutOfRange)

/-- A text filled up to the width of a conversion. Zeros go behind the first
`lead` characters. -/
def filled (conversion : Conversion) (fillsZeros : Bool) (lead : Nat) (text : Text) : Text :=
  let missing := conversion.width - text.length
  if conversion.has '-' then text ++ List.replicate missing ' '
  else if fillsZeros then text.take lead ++ List.replicate missing '0' ++ text.drop lead
  else List.replicate missing ' ' ++ text

/-- The sign that a number is written with. -/
def signText (conversion : Conversion) (isNegative : Bool) : Text :=
  if isNegative then "-"
  else if conversion.has '+' then "+"
  else if conversion.has ' ' then " "
  else []

/-- A number with its sign or mark, and with as many digits as the precision
asks for. -/
def integerText (conversion : Conversion) (sign digits : Text) : Text :=
  let digits := if conversion.precision = some 0 && digits = ['0'] then [] else digits
  let missing := conversion.precision.getD 0 - digits.length
  let fillsZeros := conversion.has '0' && conversion.precision.isNone
  filled conversion fillsZeros sign.length (sign ++ List.replicate missing '0' ++ digits)

/-- The text of a signed number. -/
def signedText (conversion : Conversion) (n : Int) : Text :=
  integerText conversion (signText conversion (n < 0)) (Text.decimal n.natAbs)

/-- The text of an unsigned number. -/
def unsignedText (conversion : Conversion) (n : Nat) : Text :=
  let isMarked := conversion.has '#'
  match conversion.letter with
  | 'o' =>
    let digits := Nat.toDigits 8 n
    let isShort : Bool := conversion.precision.getD 0 ≤ digits.length
    let startsZero : Bool := digits.head? = some '0' && conversion.precision ≠ some 0
    if isMarked && isShort && !startsZero then
      let digits := if n = 0 then ['0'] else '0' :: digits
      integerText { conversion with precision := conversion.precision.map (max 1) } [] digits
    else integerText conversion [] digits
  | 'x' => integerText conversion (if isMarked && n ≠ 0 then "0x" else []) (Nat.toDigits 16 n)
  | 'X' =>
    integerText conversion (if isMarked && n ≠ 0 then "0X" else [])
      ((Nat.toDigits 16 n).map Char.toUpper)
  | _ => integerText conversion [] (Text.decimal n)

/-- The text of a floating-point number. -/
def floatingText (conversion : Conversion) (number : Floating) : Text :=
  let letter := conversion.letter.toLower
  let showsPoint := conversion.has '#'
  let places := conversion.precision.getD 6
  let cased (text : Text) : Text :=
    if conversion.letter.isUpper then text.map Char.toUpper else text
  match number with
  | .infinite isNegative =>
    filled conversion false 0 (signText conversion isNegative ++ cased "inf")
  | .notANumber isNegative =>
    filled conversion false 0 (signText conversion isNegative ++ cased "nan")
  | .finite isNegative mantissa exponent =>
    let sign := signText conversion isNegative
    let (numerator, denominator) := Floating.scaled mantissa 2 exponent
    let text :=
      if letter = 'f' then Floating.positional showsPoint places numerator denominator
      else if letter = 'e' then Floating.scientific showsPoint places numerator denominator
      else if letter = 'g' then Floating.general showsPoint places numerator denominator
      else Floating.hexadecimal showsPoint conversion.precision mantissa exponent
    let lead := sign.length + if letter = 'a' then 2 else 0
    filled conversion (conversion.has '0') lead (sign ++ cased text)

/-- A text cut to the precision of a conversion and filled up to its width. -/
def stringText (conversion : Conversion) (text : Text) : Text :=
  let text := match conversion.precision with
    | some places => text.take places
    | none => text
  filled conversion false 0 text

/-- Writes the next argument as a conversion says. -/
def convert (conversion : Conversion) (shape : Text) (progress : Progress) : Finish × Progress :=
  match conversion.letter with
  | 'b' =>
    let (argument, progress) := progress.next
    let (text, isLast) := unescape (argument.getD [])
    (if isLast then .stopped else .more, progress.write (stringText conversion text))
  | 'c' =>
    let (argument, progress) := progress.next
    let c := (argument.bind List.head?).getD '\x00'
    (.more, progress.write (filled conversion false 0 [c]))
  | 's' =>
    let (argument, progress) := progress.next
    (.more, progress.write (stringText conversion (argument.getD [])))
  | 'd' | 'i' =>
    let (n, progress) := signedArgument progress
    (.more, progress.write (signedText conversion n))
  | 'o' | 'u' | 'x' | 'X' =>
    let (n, progress) := unsignedArgument progress
    (.more, progress.write (unsignedText conversion n))
  | 'a' | 'A' | 'e' | 'E' | 'f' | 'F' | 'g' | 'G' =>
    let (number, progress) := floatingArgument progress
    (.more, progress.write (floatingText conversion number))
  | _ => (.failed (shape ++ ": invalid directive"), progress)

/-- A number of a format: digits, or a star for the next argument. -/
def sizeFrom (format : Text) (progress : Progress) : Option Int × Text × Progress :=
  match format with
  | '*' :: rest =>
    let (n, progress) := signedArgument progress
    (some (Int.bmod n 4294967296), rest, progress)
  | _ =>
    let digits := format.takeWhile Char.isDigit
    (if digits.isEmpty then none else some (valueOf 10 digits), format.drop digits.length, progress)

/-- Writes the next argument as the conversion at the front of a format says. The
percent sign before it was read. The result holds the format behind it. -/
def conversionFrom (format : Text) (progress : Progress) : Finish × Text × Progress :=
  let flags := format.takeWhile fun c => c ∈ ['#', '-', '+', ' ', '0']
  let (width, rest, progress) := sizeFrom (format.drop flags.length) progress
  let (precision, rest, progress) : Option Int × Text × Progress := match rest with
    | '.' :: rest =>
      let (places, rest, progress) := sizeFrom rest progress
      (some (places.getD 0), rest, progress)
    | _ => (none, rest, progress)
  match rest with
  | [] => (.failed "missing format character", [], progress)
  | letter :: behind =>
    let width := width.getD 0
    let conversion : Conversion := {
      flags := if width < 0 then '-' :: flags else flags
      width := width.natAbs
      precision := precision.bind fun places => if places < 0 then none else some places.toNat
      letter }
    let shape := '%' :: format.take (format.length - behind.length)
    let (finish, progress) := convert conversion shape progress
    (finish, behind, progress)

/-- Uses a format once. Every step reads a character or a conversion. -/
def useOnce (format : Text) (progress : Progress) : Nat → Finish × Progress
  | 0 => (.more, progress)
  | steps + 1 =>
    match format with
    | [] => (.more, progress)
    | '\\' :: rest =>
      let (c, rest) := escapeFrom rest
      useOnce rest (progress.write [c]) steps
    | '%' :: '%' :: rest => useOnce rest (progress.write ['%']) steps
    | '%' :: rest =>
      match conversionFrom rest progress with
      | (.more, rest, progress) => useOnce rest progress steps
      | (finish, _, progress) => (finish, progress)
    | c :: rest => useOnce rest (progress.write [c]) steps

/-- Uses a format as long as it takes arguments and some are left. -/
def useAll (format : Text) (progress : Progress) : Nat → Finish × Progress
  | 0 => (.more, progress)
  | steps + 1 =>
    match useOnce format progress (format.length + 1) with
    | (.more, after) =>
      if after.hasAsked && !after.arguments.isEmpty then useAll format after steps
      else (.more, after)
    | result => result

/-- The output and the complaints for a format and its arguments. -/
def print (format : Text) (arguments : List Text) : Finish × Progress :=
  useAll format { arguments } (arguments.length + 1)

end QuineRelay.Shell.Printf
