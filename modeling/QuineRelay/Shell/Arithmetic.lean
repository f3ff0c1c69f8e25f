import QuineRelay.Shell.Number

/-!
# Arithmetic expressions

Expressions over 64-bit numbers with the operators and precedences of C. A
variable stands for the number it spells. Operators that decide early, such as
`&&`, read their other operand but do not evaluate it, so that it neither fails
nor assigns.
-/

namespace QuineRelay.Shell

/-- Operators that combine two numbers. -/
inductive BinaryOperator where
  | times | over | modulo | plus | minus | shiftLeft | shiftRight | less | lessEqual | greater
  | greaterEqual | equal | notEqual | bitAnd | bitXor | bitOr
  deriving DecidableEq, Repr

/-- Tokens of an expression. -/
inductive ArithmeticToken where
  | number (n : Int)
  | name (text : Text)
  | binary (operator : BinaryOperator)
  /-- An assignment, which may combine the old value with the new one. -/
  | assign (operator : Option BinaryOperator)
  | not | complement | question | colon | both | either | openParen | closeParen
  /-- Something that is no token. -/
  | unknown
  deriving DecidableEq, Repr

/-- Why an expression has no value. -/
inductive ArithmeticFault where
  | expectingPrimary | expectingParen | expectingColon | expectingEnd | divisionByZero
  | badNumber (text : Text)
  deriving DecidableEq, Repr

/-- The message for a fault in an expression. -/
def ArithmeticFault.message (expression : Text) (fault : ArithmeticFault) : Text :=
  let complaint (reason : Text) : Text :=
    "arithmetic expression: " ++ reason ++ ": \"" ++ expression ++ "\""
  match fault with
  | .expectingPrimary => complaint "expecting primary"
  | .expectingParen => complaint "expecting ')'"
  | .expectingColon => complaint "expecting ':'"
  | .expectingEnd => complaint "expecting EOF"
  | .divisionByZero => complaint "division by zero"
  | .badNumber text => "Illegal number: " ++ text

namespace BinaryOperator

/-- Place of an operator among the precedences. A smaller one binds tighter. -/
def precedence : BinaryOperator → Nat
  | .times | .over | .modulo => 0
  | .plus | .minus => 1
  | .shiftLeft | .shiftRight => 2
  | .less | .lessEqual | .greater | .greaterEqual => 3
  | .equal | .notEqual => 4
  | .bitAnd => 5
  | .bitXor => 6
  | .bitOr => 7

/-- A precedence below all operators. -/
def loosest : Nat := 8

/-- The number for a truth value. -/
def truth (b : Bool) : Int :=
  if b then 1 else 0

/-- Combines the bits of two numbers. -/
def bitwise (f : UInt64 → UInt64 → UInt64) (a b : Int) : Int :=
  wrap (f (UInt64.ofNat (unsigned a)) (UInt64.ofNat (unsigned b))).toNat

/-- Combines two numbers. -/
def apply (operator : BinaryOperator) (a b : Int) : Except ArithmeticFault Int :=
  match operator with
  | .times => .ok (wrap (a * b))
  | .over => if b = 0 then .error .divisionByZero else .ok (wrap (a.tdiv b))
  | .modulo => if b = 0 then .error .divisionByZero else .ok (wrap (a.tmod b))
  | .plus => .ok (wrap (a + b))
  | .minus => .ok (wrap (a - b))
  | .shiftLeft => .ok (wrap (a * (2 : Int).pow (unsigned b % 64)))
  | .shiftRight => .ok (Int.fdiv a ((2 : Int).pow (unsigned b % 64)))
  | .less => .ok (truth (a < b))
  | .lessEqual => .ok (truth (a ≤ b))
  | .greater => .ok (truth (b < a))
  | .greaterEqual => .ok (truth (b ≤ a))
  | .equal => .ok (truth (a = b))
  | .notEqual => .ok (truth (a ≠ b))
  | .bitAnd => .ok (bitwise (· &&& ·) a b)
  | .bitXor => .ok (bitwise (· ^^^ ·) a b)
  | .bitOr => .ok (bitwise (· ||| ·) a b)

end BinaryOperator

namespace Arithmetic

/-- The token at the front of a text, and the text behind it; none at the end. -/
def token? (text : Text) : Option (ArithmeticToken × Text) :=
  let binary (operator : BinaryOperator) (rest : Text) : ArithmeticToken × Text :=
    match rest with
    | '=' :: rest => (.assign (some operator), rest)
    | _ => (.binary operator, rest)
  match text with
  | [] => none
  | '<' :: '<' :: rest => some (binary .shiftLeft rest)
  | '<' :: '=' :: rest => some (.binary .lessEqual, rest)
  | '<' :: rest => some (.binary .less, rest)
  | '>' :: '>' :: rest => some (binary .shiftRight rest)
  | '>' :: '=' :: rest => some (.binary .greaterEqual, rest)
  | '>' :: rest => some (.binary .greater, rest)
  | '=' :: '=' :: rest => some (.binary .equal, rest)
  | '=' :: rest => some (.assign none, rest)
  | '!' :: '=' :: rest => some (.binary .notEqual, rest)
  | '!' :: rest => some (.not, rest)
  | '&' :: '&' :: rest => some (.both, rest)
  | '&' :: rest => some (binary .bitAnd rest)
  | '|' :: '|' :: rest => some (.either, rest)
  | '|' :: rest => some (binary .bitOr rest)
  | '^' :: rest => some (binary .bitXor rest)
  | '*' :: rest => some (binary .times rest)
  | '/' :: rest => some (binary .over rest)
  | '%' :: rest => some (binary .modulo rest)
  | '+' :: rest => some (binary .plus rest)
  | '-' :: rest => some (binary .minus rest)
  | '~' :: rest => some (.complement, rest)
  | '?' :: rest => some (.question, rest)
  | ':' :: rest => some (.colon, rest)
  | '(' :: rest => some (.openParen, rest)
  | ')' :: rest => some (.closeParen, rest)
  | c :: rest =>
    if c.isDigit then
      match Numeral.read? none text with
      | some numeral => some (.number (clamp numeral.magnitude), numeral.rest)
      | none => some (.unknown, rest)
    else if isNameStart c then
      let name := text.takeWhile isNameChar
      some (.name name, text.drop name.length)
    else some (.unknown, rest)

/-- The tokens of a text, one for each step. -/
def tokens (text : Text) : Nat → List ArithmeticToken
  | 0 => []
  | steps + 1 =>
    let text := text.dropWhile fun c => c = ' ' || c = '\t' || c = '\n'
    match token? text with
    | none => []
    | some (token, rest) => token :: tokens rest steps

/-- What an expression sees and does: the tokens ahead, and what it assigned, last
first. -/
structure State where
  ahead : List ArithmeticToken
  assigned : List (Text × Int) := []

/-- Evaluation of an expression. -/
abbrev Evaluation := StateT State (Except ArithmeticFault)

/-- The next token, which stays ahead. -/
def peek : Evaluation (Option ArithmeticToken) := do
  return (← get).ahead.head?

/-- Drops the next token. -/
def advance : Evaluation Unit :=
  modify fun state => { state with ahead := state.ahead.tail }

/-- The number that a variable spells. -/
def valueOfName (lookup : Text → Option Text) (name : Text) : Evaluation Int := do
  match (← get).assigned.lookup name with
  | some n => return n
  | none =>
    let text := (lookup name).getD []
    match integer? none false text with
    | some n => return n
    | none => throw (.badNumber text)

/-- Assigns to a variable. -/
def assign (name : Text) (n : Int) : Evaluation Unit :=
  modify fun state => { state with assigned := (name, n) :: state.assigned }

variable (lookup : Text → Option Text)

/-- Reads an operand. Nested expressions are read by `whole`, the operands of
signs with one step less. Where `skips` is set nothing is evaluated. -/
def primary (whole : Bool → Evaluation Int) (skips : Bool) : Nat → Evaluation Int
  | 0 => throw .expectingPrimary
  | steps + 1 => do
    let token ← peek
    advance
    match token with
    | some .openParen =>
      let n ← whole skips
      if (← peek) ≠ some .closeParen then throw .expectingParen
      advance
      return n
    | some (.number n) => return n
    | some (.name name) => if skips then return 0 else valueOfName lookup name
    | some (.binary .plus) => primary whole skips steps
    | some (.binary .minus) => return wrap (-(← primary whole skips steps))
    | some .not => return BinaryOperator.truth ((← primary whole skips steps) = 0)
    | some .complement => return -1 - (← primary whole skips steps)
    | _ => throw .expectingPrimary

/-- Reads operators that bind tighter than `bound`, and their operands, behind the
operand `a`. -/
def climb (operand : Evaluation Int) (skips : Bool) (a : Int) (bound : Nat) :
    Nat → Evaluation Int
  | 0 => throw .expectingPrimary
  | steps + 1 => do
    match ← peek with
    | some (.binary operator) =>
      if bound ≤ operator.precedence then return a
      advance
      let b ← operand
      let b ← climb operand skips b operator.precedence steps
      let a ← if skips then pure b else operator.apply a b
      climb operand skips a bound steps
    | _ => return a

/-- Reads operands joined by `&&`. -/
def conjunction (operand : Bool → Evaluation Int) (skips : Bool) : Nat → Evaluation Int
  | 0 => throw .expectingPrimary
  | steps + 1 => do
    let a ← operand skips
    if (← peek) ≠ some .both then return a
    advance
    let b ← conjunction operand (skips || a = 0) steps
    return BinaryOperator.truth (a ≠ 0 && b ≠ 0)

/-- Reads operands joined by `||`. -/
def disjunction (operand : Bool → Evaluation Int) (skips : Bool) : Nat → Evaluation Int
  | 0 => throw .expectingPrimary
  | steps + 1 => do
    let a ← operand skips
    if (← peek) ≠ some .either then return a
    advance
    let b ← disjunction operand (skips || a ≠ 0) steps
    return BinaryOperator.truth (a ≠ 0 || b ≠ 0)

/-- Reads a choice between two expressions. -/
def conditional (whole operand : Bool → Evaluation Int) (skips : Bool) : Nat → Evaluation Int
  | 0 => throw .expectingPrimary
  | steps + 1 => do
    let a ← operand skips
    if (← peek) ≠ some .question then return a
    advance
    let b ← whole (skips || a = 0)
    if (← peek) ≠ some .colon then throw .expectingColon
    advance
    let c ← conditional whole operand (skips || a ≠ 0) steps
    return if a ≠ 0 then b else c

/-- Reads an assignment or another expression, nested at most `depth` deep. -/
def expression : Nat → Bool → Evaluation Int
  | 0, _ => throw .expectingPrimary
  | depth + 1, skips => do
    let steps := (← get).ahead.length + 1
    match (← get).ahead with
    | .name name :: .assign operator? :: _ =>
      advance
      advance
      let n ← expression depth skips
      if skips then return n
      let n ← match operator? with
        | none => pure n
        | some operator => operator.apply (← valueOfName lookup name) n
      assign name n
      return n
    | _ =>
      let whole := expression depth
      let operand (skips : Bool) : Evaluation Int := primary lookup whole skips steps
      let joined (skips : Bool) : Evaluation Int := do
        climb (operand skips) skips (← operand skips) BinaryOperator.loosest steps
      let both (skips : Bool) : Evaluation Int := conjunction joined skips steps
      let either (skips : Bool) : Evaluation Int := disjunction both skips steps
      conditional whole either skips steps

/-- The value of an expression, and what it assigned, first to last. -/
def evaluate (text : Text) : Except ArithmeticFault (Int × List (Text × Int)) := do
  let ahead := tokens text text.length
  let (n, state) ← (expression lookup (ahead.length + 1) false).run { ahead }
  if state.ahead.isEmpty then return (n, state.assigned.reverse)
  throw .expectingEnd

end Arithmetic

end QuineRelay.Shell
