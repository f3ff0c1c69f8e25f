import QuineRelay.Text.Basic

/-!
# Toolchains

What it takes to run a stage: the file its source is saved under and the shell
commands that compile and run it. A command is a template; the place for the
file name is marked in it.
-/

namespace QuineRelay

/-- Whether a step builds something or prints the output of the stage. -/
inductive StepKind where
  | compile
  | run
  deriving DecidableEq, Repr

/-- One toolchain invocation. -/
structure Step where
  kind : StepKind
  /-- A shell command, with `Step.fileMark` where the file name belongs. -/
  command : Text
  /-- The package that provides the tool, if any. -/
  package : Option Text
  deriving DecidableEq, Repr

namespace Step

/-- Marks the place of the file name in a command. -/
def fileMark : Text := "\x7bsrc\x7d"

/-- The command for a source saved as `file`. -/
def commandFor (step : Step) (file : Text) : Text :=
  Text.replaceAll fileMark file step.command

end Step

/-- How the programs of one language are stored and run. -/
structure Toolchain where
  /-- Display name of the language. -/
  name : Text
  /-- File that a program is saved under. -/
  file : Text
  /-- Steps in order; the output of the last one is the output of the program. -/
  steps : List Step
  deriving DecidableEq, Repr

/-- The packages of the steps that have one, in step order. -/
def Toolchain.packages (toolchain : Toolchain) : List Text :=
  toolchain.steps.filterMap Step.package

end QuineRelay
