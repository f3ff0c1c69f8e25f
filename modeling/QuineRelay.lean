import QuineRelay.Cli.Commands
import QuineRelay.Files
import QuineRelay.Lambda.Call
import QuineRelay.Language.Standard
import QuineRelay.Main
import QuineRelay.Payload
import QuineRelay.Proofs.Cli.Arguments
import QuineRelay.Proofs.Cli.Failure
import QuineRelay.Proofs.Cli.Generate
import QuineRelay.Proofs.Files
import QuineRelay.Proofs.Files.Directories
import QuineRelay.Proofs.Lambda.Argument
import QuineRelay.Proofs.Lambda.RunTime
import QuineRelay.Proofs.Origin.Expression
import QuineRelay.Proofs.Origin.Faults
import QuineRelay.Proofs.Origin.Literals
import QuineRelay.Proofs.Origin.Program
import QuineRelay.Proofs.Origin.SelfText
import QuineRelay.Proofs.Origin.Stored
import QuineRelay.Proofs.Origin.WordList
import QuineRelay.Proofs.Pass
import QuineRelay.Proofs.Payload
import QuineRelay.Proofs.Placeholder
import QuineRelay.Proofs.Placeholder.Tokens
import QuineRelay.Proofs.Quoting.Advancing
import QuineRelay.Proofs.Quoting.Alphabet
import QuineRelay.Proofs.Quoting.Cut
import QuineRelay.Proofs.Quoting.Passes
import QuineRelay.Proofs.Quoting.Portable
import QuineRelay.Proofs.Quoting.Readable
import QuineRelay.Proofs.Quoting.Reread
import QuineRelay.Proofs.Quoting.RoundTrip
import QuineRelay.Proofs.Quoting.TapeForm
import QuineRelay.Proofs.Quoting.Verbatim
import QuineRelay.Proofs.Quoting.Written
import QuineRelay.Proofs.Relay.Cycle
import QuineRelay.Proofs.Relay.Growth
import QuineRelay.Proofs.Relay.OriginStage
import QuineRelay.Proofs.Relay.SizeLimit
import QuineRelay.Proofs.Relay.Stages
import QuineRelay.Proofs.Relay.Standard
import QuineRelay.Proofs.Relay.Unroll
import QuineRelay.Proofs.Report.Install
import QuineRelay.Proofs.Report.Packages
import QuineRelay.Proofs.Report.Probe
import QuineRelay.Proofs.Report.Script
import QuineRelay.Proofs.Report.Versions
import QuineRelay.Proofs.Results
import QuineRelay.Proofs.Route.Names
import QuineRelay.Proofs.TapeMachine.Bounds
import QuineRelay.Proofs.TapeMachine.Brackets
import QuineRelay.Proofs.TapeMachine.Pairing
import QuineRelay.Proofs.TapeMachine.Straight
import QuineRelay.Proofs.Text.Blank
import QuineRelay.Proofs.Text.Boundaries
import QuineRelay.Proofs.Text.Cutting
import QuineRelay.Proofs.Text.Letters
import QuineRelay.Proofs.Text.Malformed
import QuineRelay.Proofs.Text.Neighbours
import QuineRelay.Proofs.Text.Numeral
import QuineRelay.Proofs.Text.Occurrences
import QuineRelay.Proofs.Text.Parentheses
import QuineRelay.Proofs.Text.Utf8
import QuineRelay.Proofs.Verify.Directories
import QuineRelay.Proofs.Verify.Interleaving
import QuineRelay.Proofs.Verify.Kept
import QuineRelay.Proofs.Verify.Mismatch
import QuineRelay.Proofs.Verify.Run
import QuineRelay.Proofs.Verify.Sites
import QuineRelay.Proofs.Verify.Steps
import QuineRelay.Proofs.Verify.Verdict
import QuineRelay.Relay
import QuineRelay.Report.Readme
import QuineRelay.Shell.Command
import QuineRelay.Text.Blank
import QuineRelay.Text.Letters
import QuineRelay.Text.Split
import QuineRelay.Toolchain
import QuineRelay.Verify.Failure
import QuineRelay.Verify.Runner
