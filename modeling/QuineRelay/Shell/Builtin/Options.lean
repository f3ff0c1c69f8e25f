import QuineRelay.Shell.Variables

/-!
# Options and arguments

Reading the options of a builtin command, and the commands that set the options
and arguments of the shell or read options for a script: `set`, `shift` and
`getopts`.
-/

namespace QuineRelay.Shell.Builtin

open Session

/-- The options at the front of arguments, each with its operand, and the
arguments behind them. `known` lists the letters; a colon marks those that have an
operand. `group` holds the rest of the argument whose letters are being read, and
`done` the options before, in reverse. -/
def optionsFrom (known : Text) (done : List (Char × Text)) (group : Text)
    (arguments : List Text) : Nat → Action (List (Char × Text) × List Text)
  | 0 => return (done.reverse, arguments)
  | steps + 1 => do
    match group, arguments with
    | [], ['-', '-'] :: rest => return (done.reverse, rest)
    | [], ('-' :: c :: letters) :: rest => optionsFrom known done (c :: letters) rest steps
    | [], _ => return (done.reverse, arguments)
    | c :: letters, _ =>
      match if c = ':' then [] else known.dropWhile (· ≠ c) with
      | [] => raise ("Illegal option -" ++ [c])
      | _ :: ':' :: _ =>
        match letters, arguments with
        | _ :: _, _ => optionsFrom known ((c, letters) :: done) [] arguments steps
        | [], operand :: rest => optionsFrom known ((c, operand) :: done) [] rest steps
        | [], [] => raise ("No arg for -" ++ c :: " option")
      | _ => optionsFrom known ((c, []) :: done) letters arguments steps

/-- The options at the front of arguments, and the arguments behind them. -/
def options (known : Text) (arguments : List Text) :
    Action (List (Char × Text) × List Text) :=
  optionsFrom known [] [] arguments ((arguments.map List.length).foldl (· + ·) arguments.length + 1)

/-- The long names of the options of the shell, each with its letter. -/
def optionNames : List (Text × Char) :=
  [("errexit", 'e'), ("noglob", 'f'), ("ignoreeof", 'I'), ("interactive", 'i'), ("monitor", 'm'),
    ("noexec", 'n'), ("stdin", 's'), ("xtrace", 'x'), ("verbose", 'v'), ("vi", 'V'),
    ("emacs", 'E'), ("noclobber", 'C'), ("allexport", 'a'), ("notify", 'b'), ("nounset", 'u'),
    ("privileged", 'p'), ("nolog", '0'), ("debug", '1')]

/-- Switches an option on or off. Only one of the two editors can be on. -/
def switch (isOn : Bool) (letter : Char) : Action Unit :=
  modify fun session =>
    let others := session.options.filter fun c =>
      c ≠ letter && !(isOn && ((letter = 'V' && c = 'E') || (letter = 'E' && c = 'V')))
    { session with options := if isOn then letter :: others else others }

/-- Switches the option of a long name on or off; without a name the options are
shown. -/
def switchNamed (isOn : Bool) (name : Option Text) : Action Unit := do
  match name with
  | some name =>
    match optionNames.lookup name with
    | some letter => switch isOn letter
    | none => raise ("Illegal option -o " ++ name)
  | none =>
    let process := (← get).toProcess
    let line (entry : Text × Char) : Text :=
      let (name, letter) := entry
      if isOn then
        name ++ List.replicate (16 - name.length) ' '
          ++ (if has process letter then "on\n" else "off\n")
      else "set " ++ (if has process letter then "-o " else "+o ") ++ name ++ "\n"
    let title : Text := if isOn then "Current option settings\n" else []
    putText (title ++ optionNames.flatMap line)

/-- Switches the options of the letters of an argument. An `o` is followed by a long
name, which is taken from the arguments behind. -/
def switchLetters (isOn : Bool) (letters : Text) (arguments : List Text) : Action (List Text) := do
  match letters with
  | [] => return arguments
  | 'o' :: letters =>
    switchNamed isOn arguments.head?
    switchLetters isOn letters arguments.tail
  | c :: letters =>
    if !(optionNames.any fun entry => entry.2 = c) || c.isDigit then
      raise ("Illegal option -" ++ [c])
    switch isOn c
    switchLetters isOn letters arguments

/-- Switches the options at the front of arguments. The result holds the arguments
of the shell, if they are to be set. -/
def switchAll (arguments : List Text) : Nat → Action (Option (List Text))
  | 0 => return none
  | steps + 1 => do
    match arguments with
    | [] => return none
    | ['-'] :: rest =>
      switch false 'x'
      switch false 'v'
      return if rest.isEmpty then none else some rest
    | ['-', '-'] :: rest => return some rest
    | ('-' :: letters) :: rest => switchAll (← switchLetters true letters rest) steps
    | ('+' :: letters) :: rest => switchAll (← switchLetters false letters rest) steps
    | _ => return some arguments

/-- Sets the arguments of the shell. -/
def setArguments (arguments : List Text) : Action Unit :=
  modify fun session =>
    { session with arguments, optionIndex := 1, optionOffset := none }

/-- Sets options and arguments of the shell, or shows its variables. -/
def setCommand (arguments : List Text) : Action Nat := do
  if arguments.isEmpty then
    putText (shown [] (← get).bindings)
    return 0
  match ← switchAll arguments (arguments.length + 1) with
  | some arguments => setArguments arguments
  | none => return 0
  return 0

/-- Drops the first arguments of the shell. -/
def shiftCommand (arguments : List Text) : Action Nat := do
  let n ← match arguments.head? with
    | some text => count text
    | none => pure 1
  let given := (← get).arguments
  if given.length < n then raise "can't shift that many"
  setArguments (given.drop n)
  return 0

/-- What reading one option of a script gives: the value of the variable, the
operand if it changes, the complaint, and whether the options are over. -/
structure OptionRead where
  letter : Char
  operand : Option (Option Text)
  complaint : Text := []
  isOver : Bool := false
  index : Nat
  offset : Option Nat

/-- Reads the next option of a script. Options are told by `known`, and the reader
stands at an argument and a place in the argument before. -/
def nextOption (known : Text) (arguments : List Text) (index : Nat) (offset : Option Nat) :
    OptionRead :=
  let current : Text := match offset with
    | some offset => if index ≤ 1 then [] else (arguments.getD (index - 2) []).drop offset
    | none => []
  let isQuiet := known.head? = some ':'
  let ended (index : Nat) : OptionRead :=
    { letter := '?', operand := none, isOver := true, index, offset := none }
  let read (index : Nat) (group : Text) : OptionRead :=
    match group with
    | [] => ended index
    | c :: letters =>
      let word := arguments.getD (index - 2) []
      let later : Option Nat := some (word.length - letters.length)
      match (if c = ':' then [] else known.dropWhile (· ≠ c)) with
      | [] =>
        { letter := '?', index, offset := later
          operand := some (if isQuiet then some [c] else none)
          complaint := if isQuiet then [] else "Illegal option -" ++ c :: "\n" }
      | _ :: ':' :: _ =>
        match letters, arguments[index - 1]? with
        | _ :: _, _ => { letter := c, operand := some (some letters), index, offset := none }
        | [], some operand =>
          { letter := c, operand := some (some operand), index := index + 1, offset := none }
        | [], none =>
          { letter := if isQuiet then ':' else '?', index, offset := none
            operand := some (if isQuiet then some [c] else none)
            complaint := if isQuiet then [] else "No arg for -" ++ c :: " option\n" }
      | _ => { letter := c, operand := some (some []), index, offset := later }
  if current.isEmpty then
    match arguments[index - 1]? with
    | some ['-', '-'] => ended (index + 1)
    | some ('-' :: c :: letters) => read (index + 1) (c :: letters)
    | _ => ended index
  else read index current

/-- Reads the next option of the arguments into a variable. -/
def getoptsCommand (arguments : List Text) : Action Nat := do
  match arguments with
  | known :: name :: given =>
    let session ← get
    let words := if given.isEmpty then session.arguments else given
    let isPast : Bool := words.length + 1 < session.optionIndex
    let index := if isPast then 1 else session.optionIndex
    let offset := if isPast then none else session.optionOffset
    let result := nextOption known words index offset
    match result.operand with
    | some (some operand) => setVariable "OPTARG" (some operand)
    | some none => unsetVariable "OPTARG"
    | none => pure ()
    putError result.complaint
    setVariable "OPTIND" (some (Text.decimal result.index))
    setVariable name (some [result.letter])
    modify fun session =>
      { session with optionIndex := result.index, optionOffset := result.offset }
    return if result.isOver then 1 else 0
  | _ => raise "Usage: getopts optstring var [arg...]"

end QuineRelay.Shell.Builtin
