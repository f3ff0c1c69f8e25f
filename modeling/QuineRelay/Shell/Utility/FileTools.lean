import QuineRelay.Shell.Utility.Usage

/-!
# Moving files

The utilities that copy, move and remove files, make directories, and mark files
as programs. Only the options that scripts rely on are known.
-/

namespace QuineRelay.Shell.Utility

open Session

/-- The letters of the options among the arguments, and the other arguments. -/
def lettersOf (arguments : List Text) : Text × List Text :=
  let isOption (argument : Text) : Bool := argument.head? = some '-' && 1 < argument.length
  ((arguments.filter isOption).flatMap (·.drop 1), arguments.filter fun name => !isOption name)

/-- Runs an action for every argument; it fails if one of them fails. -/
def onEach (action : Text → Action Bool) (names : List Text) : Action Nat := do
  let results ← names.mapM action
  return if results.all id then 0 else 1

/-- Reports why something cannot be done. -/
def refuse (utility what : Text) (e : FileError) : Action Bool := do
  report utility (what ++ ": " ++ e.reason)
  return false

/-- The last name in the name of a file. -/
def lastName (name : Text) : Text :=
  ((Text.splitOn '/' name).filter fun part => !part.isEmpty).getLastD "/"

/-- The name to which a file is copied or moved. -/
def destination (session : Session) (source target : Text) : Text :=
  match Place.find session.files session.directory target with
  | .ok .directory => Path.joinText target (lastName source)
  | _ => target

/-- Copies a file. -/
def copyFile (utility source target : Text) : Action Bool := do
  let session ← get
  match Place.find session.files session.directory source with
  | .ok (.file content isExecutable) =>
    let name := destination session source target
    match session.openFile .write name with
    | .ok (.file path .., session) =>
      set { session with files := session.files.put path (.file content isExecutable) }
      return true
    | .ok (_, session) =>
      set session
      return true
    | .error e => refuse utility ("cannot create regular file " ++ quoted name) e
  | .ok _ =>
    report utility ("-r not specified; omitting directory " ++ quoted source)
    return false
  | .error e => refuse utility ("cannot stat " ++ quoted source) e

/-- Removes a file, or a directory with all that is below it. -/
def removeFile (isRecursive isForced : Bool) (name : Text) : Action Bool := do
  let session ← get
  match Place.resolve session.files session.directory name,
      Place.find session.files session.directory name with
  | .error e, _ | _, .error e =>
    if isForced then return true else refuse "rm" ("cannot remove " ++ quoted name) e
  | .ok path, .ok entry =>
    if entry = .directory && !isRecursive then
      refuse "rm" ("cannot remove " ++ quoted name) .isDirectory
    else
      set { session with files := session.files.remove path }
      return true

/-- Copies files to a file or into a directory; where they are moved, the old ones
are removed. -/
def copy (utility : Text) (moves : Bool) (arguments : List Text) : Action Nat := do
  let (_, names) := lettersOf arguments
  match names.getLast? with
  | none => failUsage utility "missing file operand"
  | some target =>
    if names.length = 1 then
      failUsage utility ("missing destination file operand after " ++ quoted target)
    else
      onEach (fun source => do
        if ← copyFile utility source target then
          if moves then removeFile false true source else return true
        else return false) names.dropLast

/-- Removes files. -/
def remove (arguments : List Text) : Action Nat := do
  let (letters, names) := lettersOf arguments
  let isForced := letters.contains 'f'
  if names.isEmpty && !isForced then failUsage "rm" "missing operand"
  else onEach (removeFile (letters.contains 'r' || letters.contains 'R') isForced) names

/-- Makes a directory. -/
def makeDirectory (withParents : Bool) (name : Text) : Action Bool := do
  let session ← get
  let what := "cannot create directory " ++ quoted name
  if withParents then
    let (place, rest) := Place.origin session.directory (toText name)
    match session.files.makeDirectories place rest with
    | .ok files =>
      set { session with files }
      return true
    | .error e => refuse "mkdir" what e
  else
    match Place.resolve session.files session.directory name with
    | .error e => refuse "mkdir" what e
    | .ok path =>
      if (session.files.entry? path).isSome then refuse "mkdir" what .present
      else
        set { session with files := session.files.put path .directory }
        return true

/-- Makes directories. -/
def makeDirectories (arguments : List Text) : Action Nat := do
  let (letters, names) := lettersOf arguments
  if names.isEmpty then failUsage "mkdir" "missing operand"
  else onEach (makeDirectory (letters.contains 'p')) names

/-- Whether a mode marks a file as a program. -/
def marksProgram (mode : Text) : Bool :=
  (mode.contains '+' && mode.contains 'x')
    || mode.any fun c => c = '7' || c = '5' || c = '3' || c = '1'

/-- Marks files as programs, or no longer. -/
def changeMode (arguments : List Text) : Action Nat := do
  match arguments with
  | [] => failUsage "chmod" "missing operand"
  | [mode] => failUsage "chmod" ("missing operand after " ++ quotedArgument mode)
  | mode :: names =>
    onEach (fun name => do
      let session ← get
      match Place.resolve session.files session.directory name,
          Place.find session.files session.directory name with
      | .error e, _ | _, .error e => refuse "chmod" ("cannot access " ++ quoted name) e
      | .ok path, .ok (.file content _) =>
        set { session with files := session.files.put path (.file content (marksProgram mode)) }
        return true
      | .ok _, .ok _ => return true) names

end QuineRelay.Shell.Utility
