import QuineRelay.Toolchain

/-!
# The relay as a script

The commands that run a relay by hand, one after the other. The last step of
each stage writes the file of the next stage, and the last stage writes a copy
of the origin, to be compared with the origin itself.
-/

namespace QuineRelay.Report

/-- The file that the last stage writes. -/
def finalFile : Text := "QR2.rb"

/-- The commands of one stage. Its last step is redirected to `target` when it
is a run step; a compile step prints nothing of interest. -/
def stageCommands (file target : Text) : List Step → List Text
  | [] => []
  | [step] =>
    match step.kind with
    | .run => [step.commandFor file ++ " > " ++ target]
    | .compile => [step.commandFor file]
  | step :: rest => step.commandFor file :: stageCommands file target rest

/-- The commands of all stages. -/
def commands : List Toolchain → List Text
  | [] => []
  | toolchain :: rest =>
    let target := (rest.head?.map Toolchain.file).getD finalFile
    stageCommands toolchain.file target toolchain.steps ++ commands rest

end QuineRelay.Report
