import QuineRelay.Shell.Builtins

/-!
# Command lines

A command line is read in three steps. Its words are expanded until the name of the
command is known, because the name decides how the others are expanded. Then its
redirections and its assignments are carried out. At last the command runs: a
function, a builtin command or a program.
-/

namespace QuineRelay.Shell.Simple

open Session Redirection

variable (eval : Evaluator)

/-- The words of a command line of which the first are expanded. -/
structure Expanding where
  fields : List Text
  words : List Word

/-- Expands words until there is another field. -/
def expandNext : List Word → Action (List Text × List Word)
  | [] => return ([], [])
  | word :: rest => do
    match ← Expansion.expandFields (Script.capture eval) word with
    | [] => expandNext rest
    | fields => return (fields, rest)

/-- Expands words until there is a field of this number, if there is one. -/
def Expanding.reach (line : Expanding) (index : Nat) : Action Expanding := do
  if index < line.fields.length then return line
  else
    let (fields, words) ← expandNext eval line.words
    return { fields := line.fields ++ fields, words }

/-- What is known of a command line when its name is. -/
structure Heading where
  line : Expanding
  /-- The fields before the name that were read as parts of `command`. -/
  before : List Text := []
  /-- Whether the name may be that of a function. -/
  usesFunctions : Bool := true
  /-- Whether programs are searched in the standard directories only. -/
  isStandard : Bool := false
  /-- Whether the first builtin command among the names is a special one. -/
  special : Option Bool := none
  /-- Whether variables are set for the time of the command only. -/
  isTemporary : Bool := false
  /-- Whether the name is that of a builtin command. -/
  isBuiltin : Bool := false

/-- The name of the command; none when there is no command. -/
def Heading.name? (heading : Heading) : Option Text :=
  heading.line.fields.head?

/-- Finds the command behind the options of `command`, from a field on: its number,
and whether programs are searched in the standard directories. There is none when
`command` itself is to run. -/
def behindOptions (line : Expanding) (index : Nat) (isStandard : Bool) :
    Nat → Action (Expanding × Option (Nat × Bool))
  | 0 => return (line, none)
  | steps + 1 => do
    let line ← line.reach eval index
    match line.fields[index]? with
    | none => return (line, none)
    | some ['-', '-'] =>
      let line ← line.reach eval (index + 1)
      return (line, if index + 1 < line.fields.length then some (index + 1, isStandard) else none)
    | some ('-' :: c :: letters) =>
      if (c :: letters).all (· = 'p') then behindOptions line (index + 1) true steps
      else return (line, none)
    | some _ => return (line, some (index, isStandard))

/-- Finds the name of the command, behind any number of `command`. -/
def headingFrom (heading : Heading) : Nat → Action Heading
  | 0 => return heading
  | steps + 1 => do
    match heading.name? with
    | none => return heading
    | some name =>
      let session ← get
      let path := Lookup.searchPath session.toProcess
      match Lookup.find session heading.usesFunctions path name with
      | .builtin isSpecial =>
        let heading := { heading with
          special := some (heading.special.getD isSpecial)
          isTemporary := heading.special.isSome || !isSpecial
          isBuiltin := true }
        if name ≠ "command" then return heading
        match ← behindOptions eval heading.line 1 false stepLimit with
        | (line, none) => return { heading with line }
        | (line, some (index, isStandard)) =>
          headingFrom { heading with
            line := { line with fields := line.fields.drop index }
            before := heading.before ++ line.fields.take index
            usesFunctions := false
            isStandard := heading.isStandard || isStandard
            isBuiltin := false } steps
      | _ => return { heading with isTemporary := true }

/-- Expands the words behind the name of a command. -/
def expandRest (declares : Bool) (words : List Word) : Action (List Text) := do
  let fields ← words.mapM fun word => do
    if declares && (Word.assignment? word).isSome then
      return [← Expansion.expandText (Script.capture eval) { tilde := true, assigns := true } word]
    else Expansion.expandFields (Script.capture eval) word
  return fields.flatten

/-- Carries out an assignment, and gives its text. -/
def assign (isTemporary exports : Bool) (word : Word) : Action Text := do
  let text ← Expansion.expandText (Script.capture eval) { assigns := true } word
  if isTemporary then makeLocal text true
  else
    match assignmentOf? text with
    | some (name, value) => setVariable name (some value) exports
    | none => pure ()
  return text

/-- The text that starts the line of a command that is traced. -/
def traceLead : Action Text := do
  let text := (value? (← get).toProcess "PS4").getD []
  match quotedWord text with
  | .ok word => Expansion.expandText (Script.capture eval) { isQuoted := true } word
  | .error _ => return text

/-- Writes a command to the stream of the error output, if commands are traced. -/
def trace (stream : Option Nat) (texts : List Text) : Action Unit := do
  let session ← get
  if has session.toProcess 'x' && !session.isTracing then
    set { session with isTracing := true }
    let lead ← traceLead eval
    modify fun session => { session with isTracing := false }
    match stream with
    | none => pure ()
    | some index =>
      modify fun session =>
        let bytes := toBytes (lead ++ Text.join " " texts ++ "\n")
        (session.writeStream? index bytes).getD session

/-- The number of function calls that can be nested. -/
def callLimit : Nat := 1000

/-- Calls a function. -/
def callFunction (tested : Bool) (body : Command) (arguments : List Text) : Action Nat := do
  let before := (← get).toProcess
  if callLimit ≤ before.calls then
    raise ("Maximum function recursion depth (" ++ Text.decimal callLimit ++ ") reached")
  modify fun session =>
    { session with
      arguments, optionIndex := 1, optionOffset := none, loops := 0, calls := session.calls + 1 }
  let result ← attempt (eval body tested)
  modify fun session =>
    { session with
      arguments := before.arguments
      optionIndex := before.optionIndex
      optionOffset := before.optionOffset
      loops := before.loops
      calls := before.calls
      jump := match session.jump with
        | .leaveFunction _ => .none
        | jump => jump }
  let _ ← resume result
  return (← get).status

/-- Runs a command whose words are expanded. -/
def call (tested : Bool) (heading : Heading) (name : Text) (arguments : List Text) :
    Action Nat := do
  let isSpecial := heading.special = some true
  if heading.isBuiltin then Builtin.run eval tested isSpecial name arguments
  else
    let session ← get
    let path := if heading.isStandard then standardPath else Lookup.searchPath session.toProcess
    let meant := Lookup.find session heading.usesFunctions path name
    Lookup.track name meant
    match meant with
    | .builtin _ => Builtin.run eval tested isSpecial name arguments
    | .function body => callFunction eval tested body arguments
    | .program place => Program.start eval place name arguments
    | .unknown reason =>
      warn (name ++ ": " ++ reason)
      return 127

/-- Runs a command line. -/
def run (tested : Bool) (number : Nat) (assignments words : List Word)
    (redirects : List Redirect) : Action Nat := do
  modify fun session => { session with line := number, substituted := 0 }
  let (fields, rest) ← expandNext eval words
  let heading ← headingFrom eval { line := { fields, words := rest } } stepLimit
  let declares := heading.isBuiltin && (heading.name?.any Lookup.declaringNames.contains)
  let isExec := heading.isBuiltin && heading.name? = some "exec"
  let fields := heading.line.fields ++ (← expandRest eval declares heading.line.words)
  let exports := isExec && 1 < fields.length
  let depth := (← get).hidden.length
  if heading.isTemporary then pushHidden
  let entries ← targets (Script.capture eval) redirects
  let before := (← get).descriptors
  match ← applyAll (Script.capture eval) entries with
  | some status =>
    restore before entries
    setStatus status
    if heading.special = some true then throw .error
    popHidden depth
    return status
  | none =>
    let result ← attempt do
      let texts ← assignments.mapM (assign eval heading.isTemporary exports)
      trace eval (before.lookup 2) (texts ++ heading.before ++ fields)
      match fields with
      | [] => return (← get).substituted
      | name :: arguments => call eval tested heading name arguments
    if !(isExec && result.isOk) then restore before entries
    let status ← resume result
    setStatus status
    popHidden depth
    return status

end QuineRelay.Shell.Simple
