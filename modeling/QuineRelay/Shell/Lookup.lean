import QuineRelay.Shell.Builtin.Options
import QuineRelay.Shell.Parser

/-!
# Looking commands up

What the name of a command stands for: a function, a builtin command, or a program
in one of the directories where programs are searched. The utilities stand in two
of these directories.
-/

namespace QuineRelay.Shell

/-- What a command name stands for. -/
inductive Meant where
  | builtin (isSpecial : Bool)
  | function (body : Command)
  /-- The program at a place. -/
  | program (place : Text)
  | unknown (reason : Text)

namespace Lookup

open Session

/-- The builtin commands that a function may stand in for. -/
def regularNames : List Text :=
  ["[", "alias", "bg", "cd", "chdir", "command", "echo", "false", "fg", "getopts", "hash", "jobs",
    "kill", "printf", "pwd", "read", "test", "true", "type", "ulimit", "umask", "unalias", "wait"]

/-- The builtin commands whose arguments are read like assignments. -/
def declaringNames : List Text :=
  ["alias", "export", "local", "readonly"]

/-- The utilities. -/
def utilityNames : List Text :=
  ["cat", "chmod", "cp", "dash", "echo", "false", "mkdir", "mv", "rm", "sh", "sleep", "touch",
    "tr", "true"]

/-- The directories of the utilities. -/
def utilityDirectories : List Text :=
  ["/usr/bin", "/bin"]

/-- The directories where programs are searched. -/
def searchPath (process : Process) : Text :=
  (value? process searchVariable).getD []

/-- The utility that stands at a place. -/
def utilityAt? (place : Text) : Option Text :=
  (utilityDirectories.findSome? fun directory =>
    Text.afterOpening? (directory ++ "/") place).bind fun name =>
      if utilityNames.contains name then some name else none

/-- Whether the file at a place is a program; none when there is nothing. -/
def isProgram? (session : Session) (place : Text) : Option Bool :=
  if (utilityAt? place).isSome then some true
  else
    match Place.find session.files session.directory place with
    | .ok (.file _ isExecutable) => some isExecutable
    | .ok _ => some false
    | .error _ => none

/-- The places at which a program may stand. -/
def places (path name : Text) : List Text :=
  (Text.splitOn ':' path).map fun directory => Path.joinText directory name

/-- The reason why a command cannot run that does not exist. -/
def missing : Text := "not found"

/-- The reason why a file cannot run that is no program. -/
def denied : Text := "Permission denied"

/-- The program of a name in some directories. -/
def findProgram (session : Session) (path name : Text) : Meant :=
  if name.contains '/' then .program name
  else
    let known := (places path name).filter fun place => (isProgram? session place).isSome
    match known.find? fun place => isProgram? session place = some true with
    | some place => .program place
    | none => .unknown (if known.isEmpty then missing else denied)

/-- What a name stands for. Programs are searched in the directories of `path`. -/
def find (session : Session) (usesFunctions : Bool) (path name : Text) : Meant :=
  match if usesFunctions then session.functions.lookup name else none with
  | some body => .function body
  | none =>
    if Grammar.specialNames.contains name then .builtin true
    else if regularNames.contains name then .builtin false
    else findProgram session path name

/-- Notes where a program was found. -/
def track (name : Text) (meant : Meant) : Action Unit :=
  match meant with
  | .program place =>
    if name.contains '/' then return
    else modify fun session =>
      if (session.tracked.lookup name).isSome then session
      else { session with tracked := session.tracked ++ [(name, place)] }
  | _ => return

/-- Describes what a name stands for, in words or as briefly as possible. -/
def describe (inWords : Bool) (path : Option Text) (name : Text) : Action Nat := do
  let session ← get
  let say (words brief : Text) : Action Nat := do
    putText ((if inWords then name ++ words else brief) ++ "\n")
    return 0
  if Token.reservedWords.contains name then say " is a shell keyword" name
  else
    match session.aliases.lookup name with
    | some text => say (" is an alias for " ++ text) ("alias " ++ name ++ "=" ++ singleQuoted text)
    | none =>
      let isTracked := (session.tracked.lookup name).isSome
      let meant := find session true (path.getD (searchPath session.toProcess)) name
      track name meant
      match meant with
      | .function _ => say " is a shell function" name
      | .builtin true => say " is a special shell builtin" name
      | .builtin false => say " is a shell builtin" name
      | .program place =>
        if (isProgram? session place).isNone && !isTracked then unknown inWords
        else
          let lead : Text := if isTracked then " is a tracked alias for " else " is "
          say (lead ++ place) place
      | .unknown _ => unknown inWords
where
  /-- Describes a name that stands for nothing. -/
  unknown (inWords : Bool) : Action Nat := do
    if inWords then
      putText (name ++ ": not found\n")
    return 127

/-- Describes what names stand for. -/
def typeCommand (names : List Text) : Action Nat := do
  let results ← names.mapM (describe true none)
  return results.foldl max 0

/-- Describes what a name stands for, if an option asks for that. -/
def commandCommand (arguments : List Text) : Action Nat := do
  let (flags, names) ← Builtin.options "pvV" arguments
  let letters := flags.map Prod.fst
  let isAsked := letters.contains 'v' || letters.contains 'V'
  match names with
  | name :: _ =>
    if isAsked then
      describe (letters.contains 'V')
        (if letters.contains 'p' then some standardPath else none) name
    else return 0
  | [] => return 0

/-- The place of a name in the list of programs that were found. -/
def bucket (name : Text) : Nat :=
  name.foldl (fun sum c => sum + c.toNat) (16 * (name.headD '\x00').toNat) % 31

/-- Finds programs in advance, or shows those that were found. -/
def hashCommand (arguments : List Text) : Action Nat := do
  let (flags, names) ← Builtin.options "rv" arguments
  if !flags.isEmpty then modify fun session => { session with tracked := [] }
  if arguments.isEmpty then
    let rows := (← get).tracked.mergeSort fun a b => bucket a.1 ≤ bucket b.1
    putText (rows.flatMap fun row => row.2 ++ "\n")
    return 0
  let results ← names.mapM fun name => do
    let session ← get
    let meant := find session true (searchPath session.toProcess) name
    track name meant
    match meant with
    | .unknown reason =>
      warn (name ++ ": " ++ reason)
      return false
    | _ => return true
  return if results.all id then 0 else 1

end Lookup

end QuineRelay.Shell
