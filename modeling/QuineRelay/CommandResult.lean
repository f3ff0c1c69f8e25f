import QuineRelay.Files
import QuineRelay.Text.Numeral

/-!
# Results of commands

What is known about a command after it ran: how it ended, what it wrote to its
two output streams, and the files as it left them. A shell is whatever gives such
a result for a directory and a command; verification works with any shell.
-/

namespace QuineRelay

/-- How a command ended. -/
inductive ExitStatus where
  | code (n : Int)
  | signal
  deriving DecidableEq, Repr

namespace ExitStatus

/-- Whether the command succeeded. -/
def succeeded : ExitStatus → Bool
  | .code n => n = 0
  | .signal => false

/-- The wording of a status. -/
def message : ExitStatus → Text
  | .code (.ofNat n) => "exit status " ++ Text.decimal n
  | .code (.negSucc n) => "exit status -" ++ Text.decimal (n + 1)
  | .signal => "killed by signal"

end ExitStatus

/-- The outcome of a command. -/
structure CommandResult where
  status : ExitStatus
  stdout : Bytes
  stderr : Bytes
  /-- The files afterwards. -/
  files : Files
  deriving DecidableEq, Repr

/-- Runs a command, with the directory at a path as its working directory. -/
abbrev ShellFunction := Files → Path → Text → CommandResult

end QuineRelay
