import QuineRelay.Cli.Options
import QuineRelay.Cli.Outcome
import QuineRelay.Cli.Usage
import QuineRelay.Report.Readme
import QuineRelay.Verify.Drawing

/-!
# The commands

What each command does with its options and the files it finds. Running stages,
asking for package versions and drawing snippets is left to a host, so the commands
themselves are functions.
-/

namespace QuineRelay.Cli

/-- What the commands need from their surroundings. -/
structure Host where
  /-- Runs a toolchain step. -/
  shell : ShellFunction
  /-- The answer of the package tool to its arguments, if there is such a tool. -/
  packageTool : Files → List Text → Option CommandResult
  /-- The time that a stage took, or all of them, as it is shown. -/
  elapsed : Option Nat → Text
  /-- The drawing of an annotated snippet. -/
  draw : Verify.Snippet → Text := Verify.Snippet.draw

/-- The error of a route or a composition as the commands report it. -/
def compositionReport (e : CompositionError) : Text :=
  "error: " ++ e.message ++ "\n"

/-- A hint for an error that has one. -/
def compositionHint (e : CompositionError) : Text :=
  match e with
  | .unknownLanguage _ => "Run `uroc langs` to list the available languages.\n"
  | _ => []

/-- The relay through the languages that a user chose. -/
def composeRoute (languages : Option Text) (settings : Settings) :
    Except CompositionError Relay :=
  (Route.ofNameList languages).bind (Relay.compose settings)

/-- The files that hold the stages of a relay in a directory. -/
def stageFiles (directory : Text) (relay : Relay) : List (Text × Bytes) :=
  relay.stages.map fun stage => (Path.joinText directory stage.toolchain.file, stage.source)

/-- Writes every stage of a relay into a directory. -/
def writeStages (files : Files) (directory : Text) (relay : Relay) : Outcome :=
  match saveAll files (stageFiles directory relay) with
  | (some e, files) => .failing files e.message
  | (none, files) =>
    { exit := 0
      stdout := []
      stderr := "wrote " ++ Text.decimal relay.length ++ " stages ("
        ++ Text.decimal relay.totalSize ++ " bytes) to " ++ directory ++ "\n"
      files }

/-- Writes the origin of a relay into a file, after `before`. -/
def writeOrigin (before : Outcome) (path : Text) (relay : Relay) : Outcome :=
  match save before.files path relay.origin with
  | .error e => { before with exit := 1, stderr := before.stderr ++ e.message }
  | .ok files =>
    { before with
      stderr := before.stderr ++ "wrote " ++ path ++ " ("
        ++ Text.decimal relay.origin.length ++ " bytes)\n"
      files }

/-- Composes a relay and writes it out: all stages into a directory, the origin
into a file, or the origin to the output when neither is asked for. -/
def generate (options : GenerateOptions) (files : Files) : Outcome :=
  match composeRoute options.languages options.settings with
  | .error e => .failing files (compositionReport e ++ compositionHint e)
  | .ok relay =>
    match options.directory, options.output with
    | none, none => .printing files relay.origin
    | none, some path => writeOrigin (.printing files []) path relay
    | some directory, none => writeStages files directory relay
    | some directory, some path =>
      let stages := writeStages files directory relay
      if stages.exit = 0 then writeOrigin stages path relay else stages

/-- The line for a stage in the output. -/
def outcomeLine (host : Host) (verbose : Bool) (outcome : Verify.Outcome) : Text :=
  let place := rightAligned 2 outcome.index ++ " " ++ outcome.language
  match outcome.failure with
  | some _ => "  FAIL  " ++ place ++ "\n"
  | none =>
    if verbose then "  ok    " ++ place ++ " (" ++ host.elapsed (some outcome.index) ++ ")\n"
    else []

/-- The report for a stage in the error output. -/
def outcomeReport (host : Host) (outcome : Verify.Outcome) : Text :=
  match outcome.failure with
  | some failure => failure.reportBy host.draw ++ "\n"
  | none => []

/-- The last line of a verification. -/
def summaryLine (host : Host) (summary : Verify.Summary) : Text :=
  Text.decimal summary.passed ++ " passed, " ++ Text.decimal summary.failed ++ " failed ("
    ++ host.elapsed none ++ ")\n"

/-- Composes a relay and verifies the stages that are selected. -/
def verify (host : Host) (options : VerifyOptions) (files : Files) : Outcome :=
  match composeRoute options.languages {} with
  | .error e => .failing files (compositionReport e ++ compositionHint e)
  | .ok relay =>
    if (Verify.selected options.config.filter relay).isEmpty then
      .failing files "No stages match the filter.\n"
    else
      let (summary, files) := Verify.run host.shell options.config relay files
      { exit := summary.exitCode
        stdout := Utf8.encode (summary.outcomes.flatMap (outcomeLine host options.verbose)
          ++ "\n" ++ summaryLine host summary)
        stderr := summary.outcomes.flatMap (outcomeReport host)
        files }

/-- The package versions that a README shows, and the files as the package tool
leaves them. -/
def packageVersions (host : Host) (options : ReadmeOptions) (files : Files)
    (toolchains : List Toolchain) : (Text → Option Text) × Files :=
  if options.withoutProbe then (fun _ => none, files)
  else
    let (_, probe) := Report.Probe.versions (Report.askTool host.packageTool) { tool := files }
      (toolchains.flatMap Toolchain.packages)
    (probe.remembered, probe.tool)

/-- Renders the README of a route, into a file or to the output. -/
def readme (host : Host) (options : ReadmeOptions) (files : Files) : Outcome :=
  match Route.ofNameList options.languages with
  | .error e => .failing files (compositionReport e)
  | .ok route =>
    let (version, files) := packageVersions host options files route.toolchains
    let text := Report.readme version route.toolchains
    match options.output with
    | none => .printing files (Utf8.encode text)
    | some path =>
      match save files path (Utf8.encode text) with
      | .error e => .failing files e.message
      | .ok files => { exit := 0, stdout := [], stderr := "wrote " ++ path ++ "\n", files }

/-- Runs a command line. Without a command the usage is shown. -/
def run (host : Host) (files : Files) (arguments : List Text) : Outcome :=
  match arguments with
  | [] => .printing files (Utf8.encode usage)
  | command :: rest =>
    if command = "generate" then
      match GenerateOptions.readFrom {} rest with
      | .ok options => generate options files
      | .error e => .failing files e.message
    else if command = "verify" then
      match VerifyOptions.readFrom {} rest with
      | .ok options => verify host options files
      | .error e => .failing files e.message
    else if command = "readme" then
      match ReadmeOptions.readFrom {} rest with
      | .ok options => readme host options files
      | .error e => .failing files e.message
    else if command = "langs" then .printing files (Utf8.encode languageList)
    else if command = "help" ∨ command = "--help" ∨ command = "-h" then
      .printing files (Utf8.encode usage)
    else if command = "version" ∨ command = "--version" ∨ command = "-V" then
      .printing files (Utf8.encode versionLine)
    else
      { exit := 1
        stdout := Utf8.encode usage
        stderr := "Unknown command: " ++ command ++ "\n\n"
        files }

end QuineRelay.Cli
