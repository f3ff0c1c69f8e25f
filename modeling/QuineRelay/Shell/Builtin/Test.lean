import QuineRelay.Shell.Number

/-!
# Conditions

The command `test`: conditions on texts, numbers and files, which can be negated,
joined and put into parentheses. A condition is read from left to right, and what
an argument means depends on those that follow it. What is known about files is
handed in.
-/

namespace QuineRelay.Shell.Condition

/-- What an argument means in a condition. -/
inductive Meaning where
  | ended | operand | unary (operator : Text) | binary (operator : Text) | not | both | either
  | openParen | closeParen
  deriving DecidableEq, Repr

/-- The operators with one operand. -/
def unaryOperators : List Text :=
  ["-r", "-w", "-x", "-e", "-f", "-d", "-c", "-b", "-p", "-u", "-g", "-k", "-s", "-t", "-z", "-n",
    "-h", "-O", "-G", "-L", "-S"]

/-- The operators with two operands. -/
def binaryOperators : List Text :=
  ["=", "!=", "<", ">", "-eq", "-ne", "-ge", "-gt", "-le", "-lt", "-nt", "-ot", "-ef"]

/-- What is known about files. -/
structure FileFacts where
  /-- Whether a file has the property that an operator asks for. -/
  holds : Text → Text → Bool
  /-- Whether two names stand for the same file. -/
  isSame : Text → Text → Bool

/-- A condition that is being read: the place of the last argument that was
read. -/
abbrev Reading := StateT Nat (Except Text)

/-- The message for an argument that stands in the wrong place. -/
def fault {α : Type} (argument : Text) (message : Text) : Reading α :=
  throw (if argument.isEmpty then message else argument ++ ": " ++ message)

variable (arguments : Array Text)

/-- Whether the operator at a place is only an operand, because nothing that it
could apply to follows. -/
def isOperand (place : Nat) : Bool :=
  match arguments[place + 1]?, arguments[place + 2]? with
  | none, _ => true
  | some _, none => false
  | some next, some _ => binaryOperators.contains next

/-- What the argument at a place means. -/
def meaning (place : Nat) : Meaning :=
  match arguments[place]? with
  | none => .ended
  | some argument =>
    if unaryOperators.contains argument then
      if isOperand arguments place then .operand else .unary argument
    else if binaryOperators.contains argument then .binary argument
    else match argument with
      | ['!'] => .not
      | ['-', 'a'] => .both
      | ['-', 'o'] => .either
      | ['('] => if (arguments[place + 1]?).isNone then .operand else .openParen
      | [')'] => .closeParen
      | _ => .operand

/-- The meaning of the argument behind the last one. -/
def ahead : Reading Meaning := do
  return meaning arguments ((← get) + 1)

/-- Goes on to the next argument. -/
def advance : Reading Unit :=
  modify (· + 1)

/-- The last argument that was read. -/
def current : Reading Text := do
  return (arguments[← get]?).getD []

/-- The number that an argument spells. -/
def number (text : Text) : Reading Int :=
  match integer? (some 10) true text with
  | some n => return n
  | none => throw ("Illegal number: " ++ text)

/-- Whether two operands stand in the relation of an operator. -/
def compare (facts : FileFacts) (operator a b : Text) : Reading Bool := do
  if operator = "=" then return a = b
  else if operator = "!=" then return a ≠ b
  else if operator = "<" then return a ≠ b && precedes a b
  else if operator = ">" then return a ≠ b && precedes b a
  else if operator = "-ef" then return facts.isSame a b
  else if operator = "-nt" || operator = "-ot" then return false
  else
    let m ← number a
    let n ← number b
    if operator = "-eq" then return m = n
    else if operator = "-ne" then return m ≠ n
    else if operator = "-ge" then return n ≤ m
    else if operator = "-gt" then return n < m
    else if operator = "-le" then return m ≤ n
    else return m < n

/-- Reads a condition without connectives, whose first argument has this meaning.
One in parentheses is read by `whole`. -/
def primary (facts : FileFacts) (whole : Meaning → Reading Bool) (first : Meaning) :
    Reading Bool := do
  match first with
  | .ended => return false
  | .openParen =>
    advance
    let inner := meaning arguments (← get)
    if inner = .closeParen then return false
    let result ← whole inner
    advance
    if meaning arguments (← get) ≠ .closeParen then fault [] "closing paren expected"
    return result
  | .unary operator =>
    advance
    match arguments[← get]? with
    | none => fault operator "argument expected"
    | some operand =>
      if operator = "-z" then return operand.isEmpty
      else if operator = "-n" then return !operand.isEmpty
      else if operator = "-t" then
        let _ ← number operand
        return false
      else return facts.holds operator operand
  | _ =>
    match ← ahead arguments with
    | .binary operator =>
      let left ← current arguments
      advance
      advance
      match arguments[← get]? with
      | none => fault operator "argument expected"
      | some right => compare facts operator left right
    | _ => return !(← current arguments).isEmpty

/-- Reads a condition that may be negated. -/
def negated (facts : FileFacts) (whole : Meaning → Reading Bool) (first : Meaning) :
    Nat → Reading Bool
  | 0 => return false
  | steps + 1 => do
    if first ≠ .not then primary arguments facts whole first
    else
      let next ← ahead arguments
      if next ≠ .ended then advance
      return !(← negated facts whole next steps)

/-- Reads conditions of which one (`isEither`) or each has to hold. `before` tells
whether that is settled already. -/
def joined (isEither : Bool) (part : Meaning → Reading Bool) (before : Bool)
    (first : Meaning) : Nat → Reading Bool
  | 0 => return before
  | steps + 1 => do
    let holds ← part first
    let result := if isEither then before || holds else before && holds
    if (← ahead arguments) = (if isEither then .either else .both) then
      advance
      advance
      joined isEither part result (meaning arguments (← get)) steps
    else return result

/-- Reads a condition in which parentheses are nested at most `depth` deep. -/
def whole (facts : FileFacts) : Nat → Meaning → Reading Bool
  | 0, _ => return false
  | depth + 1, first =>
    let steps := arguments.size + 2
    let part (first : Meaning) : Reading Bool :=
      negated arguments facts (whole facts depth) first steps
    let each (first : Meaning) : Reading Bool := joined arguments false part true first steps
    joined arguments true each false first steps

/-- Reads all arguments as one condition. -/
def complete (facts : FileFacts) (first : Option Meaning) (arguments : List Text) :
    Except Text Bool := do
  let all := arguments.toArray
  let (result, place) ← (whole all facts (all.size + 2) (first.getD (meaning all 0))).run 0
  match all[place]?, all[place + 1]? with
  | some last, some _ =>
    let lead : Text := if last.isEmpty then [] else last ++ ": "
    .error (lead ++ "unexpected operator")
  | _, _ => return result

/-- Whether the arguments are a condition that holds. Three or four arguments are
read by their number first. -/
def evaluate (facts : FileFacts) : List Text → Except Text Bool
  | [] => .ok false
  | first :: rest =>
    let arguments := first :: rest
    let isSplit : Bool := arguments.length = 3 || arguments.length = 4
    if arguments.length = 3 && rest.head?.any binaryOperators.contains then
      complete facts (some .operand) arguments
    else if isSplit && first = ['('] && rest.getLast? = some [')'] then
      complete facts none rest.dropLast
    else if isSplit && first = ['!'] then (evaluate facts rest).map (!·)
    else complete facts none arguments

end QuineRelay.Shell.Condition
