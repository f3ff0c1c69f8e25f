import QuineRelay.Shell.Streams

/-!
# Variables

Looking variables up, setting them, and hiding them for the time of a call.
-/

namespace QuineRelay.Shell.Session

/-- The variable of a name. -/
def variableOf? (process : Process) (name : Text) : Option Variable :=
  process.bindings.lookup name

/-- The value of a variable. -/
def value? (process : Process) (name : Text) : Option Text :=
  (variableOf? process name).bind Variable.value

/-- The characters that separate fields. -/
def separators (process : Process) : Text :=
  (value? process "IFS").getD " \t\n"

/-- Variables with one of them replaced, or taken away. -/
def replaced (bindings : List (Text × Variable)) (name : Text) (new : Option Variable) :
    List (Text × Variable) :=
  let others := bindings.filter fun entry => entry.1 ≠ name
  match new with
  | none => others
  | some new => (name, new) :: others

/-- The name of the variable that lists the directories of programs. -/
def searchVariable : Text := "PATH"

/-- The directories where programs are searched unless others are chosen. -/
def standardPath : Text :=
  "/usr/local/sbin:/usr/local/bin:/usr/sbin:/usr/bin:/sbin:/bin"

/-- A process with a variable in place of the one of that name. When programs are
searched in other directories, they have to be found again. -/
def withVariable (process : Process) (name : Text) (new : Option Variable) : Process :=
  { process with
    bindings := replaced process.bindings name new
    tracked := if name = searchVariable then [] else process.tracked }

/-- Puts a variable in place of the one of that name. -/
def store (name : Text) (new : Option Variable) : Action Unit :=
  modify fun session => { session with toProcess := withVariable session.toProcess name new }

/-- The number that a text spells, which must not be negative. -/
def count (text : Text) : Action Nat := do
  match integer? (some 10) true text with
  | some n =>
    if 0 ≤ n && n < 2147483648 then return n.toNat
    raise ("Illegal number: " ++ text)
  | none => raise ("Illegal number: " ++ text)

/-- Sets a variable, or takes its value away. Attributes are added to those that
it has. -/
def setVariable (name : Text) (value : Option Text) (exports : Bool := false)
    (freezes : Bool := false) : Action Unit := do
  if !isName name then raise (name ++ ": bad variable name")
  let session ← get
  let old := (variableOf? session.toProcess name).getD { value := none }
  if old.isReadonly then raise (name ++ ": is read only")
  if name = "OPTIND" then
    let index ← count (value.getD "1")
    modify fun session => { session with optionIndex := max 1 index, optionOffset := none }
  store name (some {
    value
    isExported := old.isExported || exports || has session.toProcess 'a'
    isReadonly := freezes })

/-- Adds attributes to a variable. -/
def mark (name : Text) (exports freezes : Bool) : Action Unit := do
  if !isName name then raise (name ++ ": bad variable name")
  let old := (variableOf? (← get).toProcess name).getD { value := none }
  store name (some { old with
    isExported := old.isExported || exports, isReadonly := old.isReadonly || freezes })

/-- Takes a variable away. -/
def unsetVariable (name : Text) : Action Unit := do
  if !isName name then raise (name ++ ": bad variable name")
  match variableOf? (← get).toProcess name with
  | none => return
  | some old =>
    if old.isReadonly then raise (name ++ ": is read only")
    store name none

/-- The name and the value in the text of an assignment. -/
def assignmentOf? (text : Text) : Option (Text × Text) :=
  let name := text.takeWhile (· ≠ '=')
  match text.drop name.length with
  | '=' :: value => some (name, value)
  | _ => none

/-- Notes what a local variable hides. -/
def hide (hidden : Hidden) : Action Unit :=
  modify fun session =>
    match session.hidden with
    | [] => session
    | frame :: frames => { session with hidden := (hidden :: frame) :: frames }

/-- Makes a variable local to the call that is running. -/
def makeLocal (text : Text) (exports : Bool) : Action Unit := do
  if text = "-" then
    hide (.options (← get).options)
  else
    let (name, value) := match assignmentOf? text with
      | some (name, value) => (name, some value)
      | none => (text, none)
    let old := variableOf? (← get).toProcess name
    match value, old with
    | some value, _ =>
      if isName name then hide (.variable name old)
      setVariable name (some value) exports
    | none, some _ => hide (.variable name old)
    | none, none =>
      if isName name then hide (.variable name old)
      setVariable name none exports

/-- Starts a call that may have local variables. -/
def pushHidden : Action Unit :=
  modify fun session => { session with hidden := [] :: session.hidden }

/-- Puts back what was hidden, last first. -/
def restore (hidden : List Hidden) (process : Process) : Process :=
  hidden.foldl (fun process entry =>
    match entry with
    | .variable name old => withVariable process name old
    | .options old => { process with options := old }) process

/-- Ends calls, so that only `depth` of them are left. -/
def popHidden (depth : Nat) : Action Unit :=
  modify fun session =>
    let frames := session.hidden.take (session.hidden.length - depth)
    let process := restore frames.flatten session.toProcess
    { session with
      toProcess := { process with hidden := session.hidden.drop frames.length } }

/-- The names and values that a program is started with. -/
def environment (process : Process) : List (Text × Text) :=
  process.bindings.filterMap fun entry =>
    match entry with
    | (name, { value := some value, isExported := true, .. }) => some (name, value)
    | _ => none

/-- The variables of a shell that was started with an environment. -/
def startVariables (environment : List (Text × Text)) (parent : Nat) :
    List (Text × Variable) :=
  let inherited := environment.filterMap fun entry =>
    if !isName entry.1 || entry.1 = ("IFS" : Text) then none
    else some (entry.1, { value := some entry.2, isExported := true : Variable })
  let own : List (Text × Text) :=
    [("IFS", " \t\n"), ("OPTIND", "1"), (searchVariable, standardPath),
      ("PPID", Text.decimal parent), ("PS1", "# "), ("PS2", "> "), ("PS4", "+ ")]
  own.foldl (fun bindings entry =>
    let isOwn := ([("IFS" : Text), "OPTIND", "PPID"]).contains entry.1
    let isKept := !isOwn && (bindings.lookup entry.1).isSome
    if isKept then bindings
    else replaced bindings entry.1 (some { value := some entry.2 })) inherited

/-- A text between quotation marks, at most one pair for each step: single ones, and
double ones around those that are single. -/
def quotedFrom (text : Text) : Nat → Text
  | 0 => []
  | steps + 1 =>
    let front := text.takeWhile (· ≠ '\'')
    let marks := (text.drop front.length).takeWhile (· = '\'')
    let rest := text.drop (front.length + marks.length)
    let first : Text := '\'' :: front ++ "'"
    if marks.isEmpty then first
    else if rest.isEmpty then first ++ '"' :: marks ++ "\""
    else first ++ '"' :: marks ++ "\"" ++ quotedFrom rest steps

/-- A text between quotation marks, so that the shell reads it as it is. -/
def singleQuoted (text : Text) : Text :=
  quotedFrom text (text.length + 1)

/-- The lines that show variables, in order of their names. -/
def shown (lead : Text) (bindings : List (Text × Variable)) : Text :=
  let lines : List Text := bindings.filterMap fun entry =>
    match entry.2.value with
    | some value => some (entry.1 ++ "=" ++ singleQuoted value)
    | none => if lead.isEmpty then none else some entry.1
  (lines.mergeSort precedes).flatMap fun line => lead ++ line ++ "\n"

end QuineRelay.Shell.Session
