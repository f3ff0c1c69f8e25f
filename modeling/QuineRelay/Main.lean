import QuineRelay.Cli.Commands
import QuineRelay.Shell.Command

/-!
# The program

The layer between the commands and the machine they run on. The commands are
functions on a file system that is a value, so this layer does three things: it
looks up what stands at the places that the arguments name, runs the command on
that picture, and writes down what the command changed.

The steps of a verification are run by the library's own shell, on its picture of
the files, and no package tool is asked.
-/

namespace QuineRelay.Cli

/-- The texts in an argument that may name a place: the argument itself, and the
value of an option. -/
def namedPlaces (argument : Text) : List Text :=
  argument :: ((Text.cutAt? "=" argument).map Prod.snd).toList

/-- The path of every directory on the way to a place, and of the place itself. -/
def pathsTo (place : Text) : List Path :=
  let start : Path := if Path.isAbsolute place then [Path.root] else []
  ((Path.names place).foldl (fun paths name => (paths.headD start).step name :: paths) []).reverse

/-- Where a path is on the machine. -/
def location (path : Path) : String :=
  String.ofList path.text

/-- What stands at a path on the machine. The content of a file is left out,
because the commands write files and read none. Everything that is neither a
directory nor a regular file counts as a sink. -/
def entryAt? (path : Path) : IO (Option Entry) := do
  let place := (← IO.currentDir) / location path
  unless ← place.pathExists do return none
  match (← place.metadata).type with
  | .dir => return some .directory
  | .file => return some (.file [] false)
  | _ => return some .sink

/-- Adds what stands at a path to a picture of the files. -/
def look (files : Files) (path : Path) : IO Files := do
  if (files.entry? path).isSome then return files
  match ← entryAt? path with
  | some entry => return files.put path entry
  | none => return files

/-- Adds what stands at a place, on the way to it, and directly below it. -/
def survey (files : Files) (place : Text) : IO Files := do
  let paths := pathsTo place
  let files ← paths.foldlM look files
  let last := paths.getLastD []
  match files.entry? last with
  | some .directory =>
    let names ← ((← IO.currentDir) / location last).readDir
    names.toList.foldlM (fun files name => look files (last.step name.fileName.toList)) files
  | _ => return files

/-- Writes an entry to its place on the machine. -/
def store (entry : Path × Entry) : IO Unit := do
  match entry with
  | (path, .directory) => IO.FS.createDirAll (location path)
  | (path, .file content _) => IO.FS.writeBinFile (location path) content.toByteArray
  | (_, .sink) => return

/-- Runs a command line on the machine, and gives its exit code. -/
def runOnMachine (arguments : List Text) : IO UInt32 := do
  let before ← (arguments.flatMap namedPlaces).foldlM survey Files.empty
  let host : Host := {
    shell := Shell.runLine []
    packageTool := fun _ _ => none
    elapsed := fun _ => "0.00s" }
  let outcome := run host before arguments
  (outcome.files.entries.filter fun entry => entry ∉ before.entries).forM store
  (← IO.getStdout).write outcome.stdout.toByteArray
  (← IO.getStderr).write (Utf8.encode outcome.stderr).toByteArray
  return UInt32.ofNat outcome.exit

end QuineRelay.Cli

/-- Runs the command line that the program was started with. -/
def main (arguments : List String) : IO UInt32 :=
  QuineRelay.Cli.runOnMachine (arguments.map String.toList)
