import QuineRelay.Shell.Builtin.Escapes
import QuineRelay.Shell.Builtin.Names
import QuineRelay.Shell.Floating
import QuineRelay.Shell.Lookup
import QuineRelay.Shell.Scripts
import QuineRelay.Shell.Utility.Concatenate
import QuineRelay.Shell.Utility.FileTools
import QuineRelay.Shell.Utility.Touch
import QuineRelay.Shell.Utility.Translate

/-!
# Programs

What runs in place of a shell process: a utility, a script, or another shell. A
program knows the variables of the process that are exported, its descriptors, its
working directory, and which signals it ignores, and nothing else.
-/

namespace QuineRelay.Shell.Program

open Session Redirection Builtin

/-- Waits. What runs in the background is over by then. -/
def sleep (settle : Action Unit) (arguments : List Text) : Action Nat := do
  let isTime (text : Text) : Bool :=
    let number := if "smhd".toList.contains (text.getLastD ' ') then text.dropLast else text
    match Floating.read? number with
    | some reading => reading.rest.isEmpty
    | none => false
  match arguments with
  | [] => Utility.failUsage "sleep" "missing operand"
  | _ =>
    match arguments.filter fun text => !isTime text with
    | [] =>
      settle
      return 0
    | bad =>
      bad.forM fun text => Utility.report "sleep" ("invalid time interval " ++ Utility.quoted text)
      Utility.failUsage "sleep" []

/-- Writes arguments as they are, or with their escapes replaced if an option asks
for that. -/
def echo (arguments : List Text) : Action Nat := do
  let isOption (text : Text) : Bool :=
    match text with
    | '-' :: c :: letters => (c :: letters).all fun c => c ∈ ['n', 'e', 'E']
    | _ => false
  let flags := arguments.takeWhile isOption
  let words := arguments.drop flags.length
  let letters := (flags.map (·.drop 1)).flatten
  let replaces := (letters.filter (· ≠ 'n')).getLast? = some 'e'
  let text := Text.join " " words
  let (text, isCut) := if replaces then unescape text else (text, false)
  let _ ← putBytes 1 (toBytes (text ++ if isCut || letters.contains 'n' then [] else "\n"))
  return 0

/-- Runs a utility, which fails when there is none of that name. -/
def runUtility (settle : Action Unit) (name : Text) (arguments : List Text) : Action Nat :=
  if name = "cat" then Utility.concatenate arguments
  else if name = "chmod" then Utility.changeMode arguments
  else if name = "cp" then Utility.copy "cp" false arguments
  else if name = "echo" then echo arguments
  else if name = "mkdir" then Utility.makeDirectories arguments
  else if name = "mv" then Utility.copy "mv" true arguments
  else if name = "rm" then Utility.remove arguments
  else if name = "sleep" then sleep settle arguments
  else if name = "touch" then Utility.touch arguments
  else if name = "tr" then Utility.translate arguments
  else return if name = "true" then 0 else 1

/-- A shell process as it is when it was just started as a program. -/
def freshShell (process : Process) (name : Text) : Process :=
  let parent := process.waiting.headD 0
  let bindings := startVariables (environment process) parent
  let place : Variable := { value := some (workingDirectory process), isExported := true }
  { number := process.number
    rootNumber := process.number
    waiting := process.waiting
    name
    bindings := replaced bindings "PWD" (some place)
    descriptors := process.descriptors
    directory := process.directory
    jobs := process.jobs
    line := 0
    ignored := (process.traps.filter fun entry => entry.2.isEmpty).map Prod.fst ++ process.ignored }

/-- Switches the options of the letters of an argument, and tells whether one of
them announces a text to run. -/
def startLetters (isOn hasText : Bool) (letters : Text) (arguments : List Text) :
    Action (Bool × List Text) := do
  match letters with
  | [] => return (hasText, arguments)
  | 'c' :: letters => startLetters isOn true letters arguments
  | 'l' :: letters => startLetters isOn hasText letters arguments
  | c :: letters =>
    let arguments ← switchLetters isOn [c] arguments
    startLetters isOn hasText letters arguments

/-- Switches the options that a shell is started with. The result tells whether one
of them announces a text to run, and holds the other arguments. -/
def startOptions (hasText : Bool) (arguments : List Text) : Nat → Action (Bool × List Text)
  | 0 => throw .spent
  | steps + 1 => do
    match arguments with
    | ['-'] :: rest | ['-', '-'] :: rest => return (hasText, rest)
    | ('-' :: letters) :: rest =>
      let (hasText, rest) ← startLetters true hasText letters rest
      startOptions hasText rest steps
    | ('+' :: letters) :: rest =>
      let (hasText, rest) ← startLetters false hasText letters rest
      startOptions hasText rest steps
    | _ => return (hasText, arguments)

/-- The content of a script. A directory has none. -/
def scriptText (name : Text) : Action Text := do
  let session ← get
  match session.openFile .read name with
  | .error e => raise ("cannot open " ++ name ++ ": " ++ reason true e)
  | .ok (.file path .., _) => return ofBytes (session.contentOf path)
  | .ok _ => return []

/-- All that is left of the input. -/
def inputText : Action Text := do
  let session ← get
  match session.unreadBytes 0 with
  | .ok bytes =>
    set (session.skipBytes 0 bytes.length)
    return ofBytes bytes
  | .error _ => return []

variable (eval : Evaluator)

/-- Runs a text as the script of a shell that was just started. -/
def runScript (isFile : Bool) (text : Text) : Action Unit := do
  modify fun session => { session with line := 1 }
  let status ← Script.runText eval isFile false text
  modify fun session => { session with status, jump := .none }

/-- Runs a shell with arguments of its own. -/
def runShell (name : Text) (arguments : List Text) : Action Unit := do
  modify fun session => { session with toProcess := freshShell session.toProcess name }
  let (hasText, operands) ← startOptions false arguments (arguments.length + 1)
  let named (operands : List Text) : Action Unit :=
    modify fun session =>
      { session with name := operands.headD name, arguments := operands.tail }
  match hasText, operands with
  | true, [] => raise "-c requires an argument"
  | true, text :: operands =>
    named operands
    runScript eval false text
    if has (← get).toProcess 's' then runScript eval true (← inputText)
  | false, [] =>
    switch true 's'
    runScript eval true (← inputText)
  | false, file :: rest =>
    if has (← get).toProcess 's' then
      modify fun session => { session with arguments := operands }
      runScript eval true (← inputText)
    else
      let text ← scriptText file
      named (file :: rest)
      runScript eval true text

/-- The interpreter that the first line of a script names, with its operand. -/
def interpreter? (text : Text) : Option (Text × List Text) :=
  match text with
  | '#' :: '!' :: rest =>
    let line := (rest.takeWhile (· ≠ '\n')).dropWhile isSpace
    let name := line.takeWhile fun c => !isSpace c
    let operand := (line.drop name.length).dropWhile isSpace
    let operand := (operand.reverse.dropWhile isSpace).reverse
    some (name, if operand.isEmpty then [] else [operand])
  | _ => none

/-- Why a program cannot run, and the status that says so. -/
structure Refusal where
  reason : Text
  status : Nat

/-- Reports that a program cannot run. -/
def refuse {α : Type} (name : Text) (refusal : Refusal) : Action α := do
  warn (name ++ ": " ++ refusal.reason)
  setStatus refusal.status
  throw .failure

/-- Runs a utility or a shell in place of the process. -/
def runTool (tool name : Text) (arguments : List Text) : Action Unit := do
  if tool = "sh" || tool = "dash" then runShell eval name arguments
  else
    modify fun session =>
      { session with traps := session.traps.filter fun entry => entry.2.isEmpty }
    setStatus (← runUtility (Script.settleJobs eval stepLimit) tool arguments)

/-- What runs the program at a place, in place of the process. A script without an
interpreter is run by a shell. -/
def load (session : Session) (place name : Text) (arguments : List Text) :
    Except Refusal (Action Unit) :=
  match Lookup.utilityAt? place with
  | some tool => .ok (runTool eval tool name arguments)
  | none =>
    match Place.find session.files session.directory place with
    | .ok (.file content true) =>
      match interpreter? (ofBytes content) with
      | none => .ok (runShell eval place (place :: arguments))
      | some (interpreter, operands) =>
        match Lookup.utilityAt? interpreter with
        | some tool => .ok (runTool eval tool interpreter (operands ++ place :: arguments))
        | none => .error { reason := Lookup.missing, status := 127 }
    | .ok _ => .error { reason := Lookup.denied, status := 126 }
    | .error _ => .error { reason := Lookup.missing, status := 127 }

/-- Runs the program at a place as a process of its own, and gives its status. -/
def start (place name : Text) (arguments : List Text) : Action Nat := do
  let ending ← Script.asChild eval do
    match load eval (← get) place name arguments with
    | .ok action => action
    | .error refusal => refuse name refusal
  Script.reap ending

/-- Runs the program at a place instead of the rest of the process. -/
def replace (place name : Text) (arguments : List Text) : Action Nat := do
  match load eval (← get) place name arguments with
  | .error refusal => refuse name refusal
  | .ok action =>
    let ending ← Script.conclude eval (← attempt action)
    modify fun session => { session with traps := [], settled := none }
    match ending with
    | .code status =>
      setStatus status
      throw .failure
    | .signal number => throw (.signal number)

end QuineRelay.Shell.Program
