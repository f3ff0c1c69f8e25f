import QuineRelay.Files
import QuineRelay.Text.Utf8

/-!
# Outcomes of a command line

All that a command does: its exit code, what it prints, and the files as it
leaves them. Files are saved one at a time, and the first that cannot be saved
ends the command; those before it stay.
-/

namespace QuineRelay.Cli

/-- The result of a command line. -/
structure Outcome where
  exit : Nat
  stdout : Bytes
  stderr : Text
  files : Files
  deriving DecidableEq, Repr

namespace Outcome

/-- A command that succeeds and changes no file. -/
def printing (files : Files) (stdout : Bytes) : Outcome :=
  { exit := 0, stdout, stderr := [], files }

/-- A command that fails without printing anything to its output. -/
def failing (files : Files) (stderr : Text) : Outcome :=
  { exit := 1, stdout := [], stderr, files }

end Outcome

/-- Why a file cannot be saved. -/
inductive SaveError where
  /-- Its directory cannot be made. -/
  | create (directory : Text) (cause : FileError)
  | write (file : Text) (cause : FileError)
  deriving DecidableEq, Repr

/-- The wording of an error. -/
def SaveError.message : SaveError → Text
  | .create directory cause =>
    "error: cannot create '" ++ directory ++ "': " ++ cause.message ++ "\n"
  | .write file cause => "error: cannot write '" ++ file ++ "': " ++ cause.message ++ "\n"

/-- Saves a file, and makes its directory when there is none. -/
def save (files : Files) (path : Text) (content : Bytes) : Except SaveError Files :=
  let parent := (Path.parentText? path).getD []
  match files.makeDirectories [] parent with
  | .error e => .error (.create parent e)
  | .ok files =>
    match files.write [] path content with
    | .ok files => .ok files
    | .error e => .error (.write path e)

/-- Saves several files in order, up to the first that cannot be saved. -/
def saveAll (files : Files) : List (Text × Bytes) → Option SaveError × Files
  | [] => (none, files)
  | (path, content) :: rest =>
    match save files path content with
    | .ok files => saveAll files rest
    | .error e => (some e, files)

end QuineRelay.Cli
