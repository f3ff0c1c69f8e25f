import QuineRelay.CommandResult
import QuineRelay.Text.Split
import QuineRelay.Verify.Mismatch

/-!
# Why a stage fails verification

A stage fails when one of its steps fails, when it prints something other than
the next stage, or when its files cannot be written. Each failure has a one-line
message and a longer report.
-/

namespace QuineRelay.Verify

/-- Why a stage does not pass. -/
inductive Failure where
  /-- The stage printed something other than the next stage. -/
  | mismatch (mismatch : Mismatch)
  /-- A step did not succeed. -/
  | step (language command : Text) (status : ExitStatus) (stderr : Text)
  /-- A file or directory could not be made. -/
  | io (context cause : Text)
  deriving DecidableEq, Repr

namespace Failure

/-- The failure in one line. -/
def message : Failure → Text
  | .mismatch m =>
    "stage " ++ Text.decimal m.stage ++ " (" ++ m.language
      ++ ") output diverges from the next stage at byte " ++ Text.decimal m.offset
  | .step language command status _ =>
    language ++ ": `" ++ command ++ "` failed (" ++ status.message ++ ")"
  | .io context cause => context ++ ": " ++ cause

/-- Lines of error output that a report shows. -/
def shownLines : Nat := 20

/-- A line of error output as a report shows it. -/
def shownLine (line : Text) : Text :=
  "  | " ++ line ++ "\n"

/-- The failure with its circumstances: where the outputs differ, drawn as `draw`
does, or what a failed step wrote to its error output. -/
def reportBy (draw : Snippet → Text) (failure : Failure) : Text :=
  match failure with
  | .mismatch m => draw m.annotated
  | .step _ _ _ stderr =>
    failure.message ++ "\n"
      ++ ((Text.lines stderr).take shownLines).flatMap shownLine
  | .io _ _ => failure.message ++ "\n"

end Failure

end QuineRelay.Verify
