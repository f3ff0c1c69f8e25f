import QuineRelay.Shell.Builtin.Options

/-!
# Names and places

The builtin commands that change what names stand for (variables, functions and
aliases), and those that change or show the working directory.
-/

namespace QuineRelay.Shell.Builtin

open Session

/-- Marks variables as exported or as readonly, or shows those that are marked. -/
def declareCommand (exports : Bool) (arguments : List Text) : Action Nat := do
  let (flags, names) ← options "p" arguments
  if names.isEmpty || !flags.isEmpty then
    let lead : Text := if exports then "export " else "readonly "
    let marked := (← get).bindings.filter fun entry =>
      if exports then entry.2.isExported else entry.2.isReadonly
    putText (shown lead marked)
  else
    names.forM fun text =>
      match assignmentOf? text with
      | some (name, value) => setVariable name (some value) exports !exports
      | none => mark text exports !exports
  return 0

/-- Makes variables local to the call that is running. -/
def localCommand (arguments : List Text) : Action Nat := do
  if (← get).hidden.isEmpty then raise "not in a function"
  arguments.forM fun text => makeLocal text false
  return 0

/-- Takes variables and functions away. -/
def unsetCommand (arguments : List Text) : Action Nat := do
  let (flags, names) ← options "vf" arguments
  let isFunction := (flags.getLast?.map Prod.fst) = some 'f'
  names.forM fun name =>
    if isFunction then
      modify fun session =>
        { session with functions := session.functions.filter fun entry => entry.1 ≠ name }
    else unsetVariable name
  return 0

/-- The line that shows an alias. -/
def aliasLine (entry : Text × Text) : Text :=
  entry.1 ++ "=" ++ singleQuoted entry.2 ++ "\n"

/-- Sets or shows an alias; the result tells whether there is one. -/
def setAlias (text : Text) : Action Bool := do
  let front := text.takeWhile (· ≠ '=')
  match text.drop front.length with
  | '=' :: value =>
    modify fun session =>
      { session with
        aliases := session.aliases.filter (fun entry => entry.1 ≠ front) ++ [(front, value)] }
    return true
  | _ =>
    match (← get).aliases.lookup text with
    | some value =>
      putText (aliasLine (text, value))
      return true
    | none =>
      putError ("alias: " ++ text ++ " not found\n")
      return false

/-- The place of an alias where all of them are shown: they are kept in 39 rows,
and a row is told by the characters of the name, the first of which counts more. -/
def aliasRow (name : Text) : Nat :=
  let codes := name.map Char.toNat
  codes.foldl (· + ·) (codes.headD 0 * 16) % 39

/-- Sets or shows aliases. -/
def aliasCommand (arguments : List Text) : Action Nat := do
  if arguments.isEmpty then
    let rows := (← get).aliases.mergeSort fun a b => aliasRow a.1 ≤ aliasRow b.1
    putText (rows.flatMap aliasLine)
    return 0
  let results ← arguments.mapM setAlias
  return if results.all id then 0 else 1

/-- Takes aliases away. -/
def unaliasCommand (arguments : List Text) : Action Nat := do
  let (flags, names) ← options "a" arguments
  if flags.any fun flag => flag.1 = 'a' then
    modify fun session => { session with aliases := [] }
    return 0
  let results ← names.mapM fun name => do
    let session ← get
    if (session.aliases.lookup name).isNone then
      putError ("unalias: " ++ name ++ " not found\n")
      return false
    set { session with aliases := session.aliases.filter fun entry => entry.1 ≠ name }
    return true
  return if results.all id then 0 else 1

/-- The name of the working directory. -/
def workingDirectory (process : Process) : Text :=
  Place.absoluteName process.directory

/-- Changes the working directory, if there is such a directory. -/
def enterDirectory (name : Text) : Action Bool := do
  let session ← get
  match Place.resolve session.files session.directory name with
  | .error _ => return false
  | .ok path =>
    if session.files.entry? path ≠ some .directory then return false
    let before := workingDirectory session.toProcess
    set { session with directory := path }
    setVariable "OLDPWD" (some before) true
    setVariable "PWD" (some (Place.absoluteName path)) true
    return true

/-- Whether a name is never looked up in other directories. -/
def isAnchored (name : Text) : Bool :=
  match name with
  | '/' :: _ | ['.'] | '.' :: '/' :: _ | ['.', '.'] | '.' :: '.' :: '/' :: _ => true
  | _ => false

/-- Changes the working directory. -/
def changeDirectory (arguments : List Text) : Action Nat := do
  let (_, names) ← options "LP" arguments
  let session ← get
  let process := session.toProcess
  let isBack := names.head? = some ['-']
  let name := match names.head? with
    | none => (value? process "HOME").getD []
    | some name => if isBack then (value? process "OLDPWD").getD [] else name
  let listed := if isAnchored name then [] else
    match value? process "CDPATH" with
    | some text => Text.splitOn ':' text
    | none => []
  let found := listed.find? fun directory =>
    match Place.find session.files process.directory (Path.joinText directory name) with
    | .ok .directory => true
    | _ => false
  let target := match found with
    | some directory => Path.joinText directory name
    | none => if name.isEmpty then ['.'] else name
  if !(← enterDirectory target) then raise ("can't cd to " ++ name)
  if isBack || found.any fun directory => !directory.isEmpty then
    putText (workingDirectory (← get).toProcess ++ "\n")
  return 0

/-- Shows the working directory. -/
def printDirectory (arguments : List Text) : Action Nat := do
  let _ ← options "LP" arguments
  putText (workingDirectory (← get).toProcess ++ "\n")
  return 0

end QuineRelay.Shell.Builtin
