import QuineRelay.Relay
import QuineRelay.Verify.Runner

/-!
# Command-line options

The options of the commands that take any. Arguments are read from left to right,
a later option replaces an earlier one of its kind, and the first argument that
cannot be read is reported. An `-o` takes the next argument, whatever it is; a
last `-o` has none to take and is unknown.
-/

namespace QuineRelay.Cli

/-- Why the arguments of a command cannot be read. -/
inductive OptionError where
  | unknown (command argument : Text)
  | notNumber (option value : Text)
  deriving DecidableEq, Repr

/-- The wording of an error. -/
def OptionError.message : OptionError → Text
  | .unknown command argument =>
    "error: unknown option '" ++ argument ++ "' for `uroc " ++ command
      ++ "`\nRun `uroc help` for usage.\n"
  | .notNumber option value =>
    "error: " ++ option ++ " expects a number, got '" ++ value ++ "'\n"

/-- The count that an option gives. -/
def number (option value : Text) : Except OptionError Nat :=
  match Text.word? value with
  | some n => .ok n
  | none => .error (.notNumber option value)

/-- Reads the arguments of a command that takes an `-o`: `withOutput` chooses the file
that follows one, and `readOne` reads any other argument. -/
def readArguments {α ε : Type} (withOutput : α → Text → α) (readOne : α → Text → Except ε α)
    (options : α) (arguments : List Text) : Except ε α :=
  match arguments with
  | [] => .ok options
  | [argument] => readOne options argument
  | argument :: next :: rest =>
    if argument = "-o" then readArguments withOutput readOne (withOutput options next) rest
    else
      match readOne options argument with
      | .ok options => readArguments withOutput readOne options (next :: rest)
      | .error e => .error e

/-- What `generate` may choose. -/
structure GenerateOptions where
  /-- The file for the origin. -/
  output : Option Text := none
  /-- The directory for all stages. -/
  directory : Option Text := none
  /-- The languages of the route. -/
  languages : Option Text := none
  settings : Settings := {}
  deriving DecidableEq, Repr

namespace GenerateOptions

/-- Chooses the file of an `-o`. -/
def withOutput (options : GenerateOptions) (path : Text) : GenerateOptions :=
  { options with output := some path }

/-- Reads an option that takes no second argument. -/
def readOne (options : GenerateOptions) (argument : Text) : Except OptionError GenerateOptions :=
  if argument = "--all" then .ok { options with directory := some "." }
  else if let some directory := Text.afterOpening? "--dir=" argument then
    .ok { options with directory := some directory }
  else if let some languages := Text.afterOpening? "--langs=" argument then
    .ok { options with languages := some languages }
  else if let some width := Text.afterOpening? "--width=" argument then
    (number "--width" width).map fun n =>
      { options with settings := { options.settings with lineWidth := n } }
  else if let some limit := Text.afterOpening? "--max-size=" argument then
    (number "--max-size" limit).map fun n =>
      { options with settings := { options.settings with sizeLimit := n } }
  else .error (.unknown "generate" argument)

/-- Reads all arguments. -/
def readFrom (options : GenerateOptions) (arguments : List Text) :
    Except OptionError GenerateOptions :=
  readArguments withOutput readOne options arguments

end GenerateOptions

/-- What `verify` may choose. -/
structure VerifyOptions where
  languages : Option Text := none
  config : Verify.Config := {}
  /-- Show the stages that pass. -/
  verbose : Bool := false
  deriving DecidableEq, Repr

namespace VerifyOptions

/-- Reads one argument. -/
def readOne (options : VerifyOptions) (argument : Text) : Except OptionError VerifyOptions :=
  if let some filter := Text.afterOpening? "--filter=" argument then
    .ok { options with config := { options.config with filter := some filter } }
  else if let some directory := Text.afterOpening? "--keep=" argument then
    .ok { options with config := { options.config with keep := some directory } }
  else if let some languages := Text.afterOpening? "--langs=" argument then
    .ok { options with languages := some languages }
  else if argument = "--no-parallel" then
    .ok { options with config := { options.config with parallel := false } }
  else if argument = "--verbose" ∨ argument = "-v" then .ok { options with verbose := true }
  else .error (.unknown "verify" argument)

/-- Reads all arguments. -/
def readFrom (options : VerifyOptions) (arguments : List Text) :
    Except OptionError VerifyOptions :=
  arguments.foldlM readOne options

end VerifyOptions

/-- What `readme` may choose. -/
structure ReadmeOptions where
  /-- The file for the README. -/
  output : Option Text := none
  languages : Option Text := none
  /-- Do not ask for package versions. -/
  withoutProbe : Bool := false
  deriving DecidableEq, Repr

namespace ReadmeOptions

/-- Chooses the file of an `-o`. -/
def withOutput (options : ReadmeOptions) (path : Text) : ReadmeOptions :=
  { options with output := some path }

/-- Reads an option that takes no second argument. -/
def readOne (options : ReadmeOptions) (argument : Text) : Except OptionError ReadmeOptions :=
  if let some languages := Text.afterOpening? "--langs=" argument then
    .ok { options with languages := some languages }
  else if argument = "--no-probe" then .ok { options with withoutProbe := true }
  else .error (.unknown "readme" argument)

/-- Reads all arguments. -/
def readFrom (options : ReadmeOptions) (arguments : List Text) :
    Except OptionError ReadmeOptions :=
  readArguments withOutput readOne options arguments

end ReadmeOptions

end QuineRelay.Cli
