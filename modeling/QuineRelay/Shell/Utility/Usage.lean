import QuineRelay.Shell.Streams

/-!
# How utilities are used

What the utilities have in common: options with one letter or with a long name,
names in messages that are quoted where a shell would read them differently, and
messages that start with the name of the utility.
-/

namespace QuineRelay.Shell.Utility

open Session

/-- Whether an option has an operand. -/
inductive OperandRule where
  | none | required | optional
  deriving DecidableEq, Repr

/-- An option with a long name, and the letter it stands for. -/
structure LongOption where
  name : Text
  rule : OperandRule := .none
  letter : Char

/-- The options that a utility knows. -/
structure OptionTable where
  short : List (Char × OperandRule)
  long : List LongOption
  /-- Whether options may stand behind other arguments. -/
  permutes : Bool := true

/-- The options that were given, each with its operand, and the other arguments. -/
structure Usage where
  options : List (Char × Text) := []
  operands : List Text := []

namespace Usage

/-- Whether an option was given. -/
def has (usage : Usage) (letter : Char) : Bool :=
  usage.options.any fun option => option.1 = letter

/-- The operand of an option that was given last. -/
def operand? (usage : Usage) (letter : Char) : Option Text :=
  usage.options.reverse.lookup letter

/-- The usage with one more option. -/
def addOption (usage : Usage) (letter : Char) (operand : Text) : Usage :=
  { usage with options := usage.options ++ [(letter, operand)] }

/-- The usage with one more argument that is no option. -/
def addOperand (usage : Usage) (operand : Text) : Usage :=
  { usage with operands := usage.operands ++ [operand] }

end Usage

/-- Finds the option of a long name, which may be shortened. -/
def findLong (table : OptionTable) (given : Text) : Except Text LongOption :=
  match table.long.find? fun option => option.name = given with
  | some option => .ok option
  | none =>
    let candidates := table.long.filter fun option => Text.startsWith given option.name
    match candidates with
    | [] => .error ("unrecognized option '--" ++ given ++ "'")
    | option :: rest =>
      if rest.all fun other => other.letter = option.letter then .ok option
      else
        let names : Text := candidates.flatMap fun option => " '--" ++ option.name ++ "'"
        .error ("option '--" ++ given ++ "' is ambiguous; possibilities:" ++ names)

/-- Reads the letters of an argument, with the arguments behind it. The result
holds the arguments that are left. -/
def readLetters (table : OptionTable) (usage : Usage) (arguments : List Text) :
    Text → Except Text (Usage × List Text)
  | [] => .ok (usage, arguments)
  | c :: letters =>
    match table.short.lookup c with
    | none => .error ("invalid option -- '" ++ c :: "'")
    | some .required =>
      match letters, arguments with
      | _ :: _, _ => .ok (usage.addOption c letters, arguments)
      | [], operand :: rest => .ok (usage.addOption c operand, rest)
      | [], [] => .error ("option requires an argument -- '" ++ c :: "'")
    | some .optional => .ok (usage.addOption c letters, arguments)
    | some .none => readLetters table (usage.addOption c []) arguments letters

/-- Reads a long option, with the arguments behind it. -/
def readLong (table : OptionTable) (usage : Usage) (arguments : List Text) (text : Text) :
    Except Text (Usage × List Text) := do
  let given := text.takeWhile (· ≠ '=')
  let value := text.drop given.length
  let option ← findLong table given
  match option.rule, value with
  | .none, [] | .optional, [] => return (usage.addOption option.letter [], arguments)
  | .none, _ :: _ => throw ("option '--" ++ option.name ++ "' doesn't allow an argument")
  | _, _ :: operand => return (usage.addOption option.letter operand, arguments)
  | .required, [] =>
    match arguments with
    | operand :: rest => return (usage.addOption option.letter operand, rest)
    | [] => throw ("option '--" ++ option.name ++ "' requires an argument")

/-- Reads arguments; every step reads one of them. -/
def readFrom (table : OptionTable) (usage : Usage) (arguments : List Text) :
    Nat → Except Text Usage
  | 0 => .ok usage
  | steps + 1 =>
    match arguments with
    | [] => .ok usage
    | ['-', '-'] :: rest => .ok { usage with operands := usage.operands ++ rest }
    | ('-' :: '-' :: name) :: rest => do
      let (usage, rest) ← readLong table usage rest name
      readFrom table usage rest steps
    | ('-' :: c :: letters) :: rest => do
      let (usage, rest) ← readLetters table usage rest (c :: letters)
      readFrom table usage rest steps
    | operand :: rest =>
      if table.permutes then readFrom table (usage.addOperand operand) rest steps
      else .ok { usage with operands := usage.operands ++ arguments }

/-- Reads the arguments of a utility. -/
def read (table : OptionTable) (arguments : List Text) : Except Text Usage :=
  readFrom table {} arguments (arguments.length + 1)

/-- Reports something under the name of a utility. -/
def report (utility message : Text) : Action Unit :=
  putError (utility ++ ": " ++ message ++ "\n")

/-- Reports something under the name of a utility, and fails. -/
def fail (utility message : Text) : Action Nat := do
  report utility message
  return 1

/-- Reports that a utility was not used as it should be, and fails. -/
def failUsage (utility message : Text) : Action Nat :=
  fail utility (message ++ "\nTry '" ++ utility ++ " --help' for more information.")

/-- The three digits of an octet in base eight. -/
def octalDigits (c : Char) : Text :=
  let digits := Nat.toDigits 8 c.toNat
  List.replicate (3 - digits.length) '0' ++ digits

/-- The letter for a control character. -/
def controlLetter? (c : Char) : Option Char :=
  match c.toNat with
  | 7 => some 'a'
  | 8 => some 'b'
  | 9 => some 't'
  | 10 => some 'n'
  | 11 => some 'v'
  | 12 => some 'f'
  | 13 => some 'r'
  | _ => none

/-- Whether an octet can be shown. -/
def isPrintable (c : Char) : Bool :=
  32 ≤ c.toNat && c.toNat < 127

/-- Quotes a name for a shell. `isEscaping` tells whether octets that cannot be
shown come before. -/
def quoteFrom (isEscaping : Bool) : Text → Text
  | [] => "'"
  | c :: rest =>
    if isPrintable c then
      let shown : Text :=
        if c = '\'' then "'\\''" else if isEscaping then "''" ++ [c] else [c]
      shown ++ quoteFrom false rest
    else
      let lead : Text := if isEscaping then [] else "'$'"
      let code := match controlLetter? c with
        | some letter => [letter]
        | none => octalDigits c
      lead ++ '\\' :: code ++ quoteFrom true rest

/-- Whether a character does not keep a name with a single quotation mark from
being shown between double ones. -/
def isPlainAnywhere (isFirst : Bool) (c : Char) : Bool :=
  isPrintable c && c ∉ ['!', '"', '$', '&', '(', ')', '*', ';', '<', '=', '>', '[', '^', '`', '|',
    '?', '\\', '\x7b', '\x7d'] && (isFirst || c ∉ ['#', '~'])

/-- A name between quotation marks. -/
def quoted (name : Text) : Text :=
  let isPlain := (name.zipIdx.all fun entry => isPlainAnywhere (entry.2 = 0) entry.1)
  if name.contains '\'' && isPlain then '"' :: name ++ "\""
  else '\'' :: quoteFrom false name

/-- Whether a shell would read a name differently. -/
def needsQuotes (name : Text) : Bool :=
  name.isEmpty || name = ['\x7b'] || name = ['\x7d']
    || (name.head?.any fun c => c = '#' || c = '~')
    || name.any fun c => !isPrintable c || c ∈ [' ', '!', '"', '$', '&', '(', ')', '*', ';', '<',
      '=', '>', '[', '^', '`', '|', '\'', '\\', '?', ':']

/-- A name, between quotation marks if a shell would read it differently. -/
def shellName (name : Text) : Text :=
  if needsQuotes name then quoted name else name

/-- An argument between quotation marks, with escapes for what cannot be shown. -/
def quotedArgument (text : Text) : Text :=
  '\'' :: text.flatMap (fun c =>
    if c = '\'' || c = '\\' then ['\\', c]
    else if isPrintable c then [c]
    else match controlLetter? c with
      | some letter => ['\\', letter]
      | none => '\\' :: octalDigits c) ++ "'"

end QuineRelay.Shell.Utility
