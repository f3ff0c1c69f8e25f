import QuineRelay.CommandResult
import QuineRelay.Text.Blank
import QuineRelay.Text.Utf8
import QuineRelay.Toolchain

/-!
# Package versions

A probe looks up the installed version of a package and remembers the answer,
also when there is none, so each package is looked up once. The versions are
shown in a table with one row for each toolchain step.
-/

namespace QuineRelay.Report

/-- The program that knows the installed packages. -/
def packageTool : Text := "dpkg-query"

/-- Its arguments for the version of a package. -/
def versionQuery (package : Text) : List Text :=
  ["-W", "-f=$\x7bVersion\x7d", package]

/-- The version in the answer of the package tool, without the white space around
it. There is none when the tool is missing or fails, or when it prints nothing
else. -/
def versionIn (answer : Option CommandResult) : Option Text :=
  match answer with
  | none => none
  | some result =>
    let version := Text.trim (Utf8.decodeLossy result.stdout)
    if result.status.succeeded && !version.isEmpty then some version else none

/-- Asks the package tool for the version of a package, and keeps the files as it
leaves them. -/
def askTool (tool : Files → List Text → Option CommandResult) (files : Files) (package : Text) :
    Option Text × Files :=
  let answer := tool files (versionQuery package)
  (versionIn answer, (answer.map CommandResult.files).getD files)

/-- The package tool as it is now, and what it was asked for: each package in the
order of the first question, with the answer. -/
structure Probe (State : Type) where
  tool : State
  answers : List (Text × Option Text) := []

namespace Probe

variable {State : Type}

/-- The answer for `package`. Only a package that was not asked for before is
looked up; `query` is what the tool answers, and how that changes it. -/
def version (query : State → Text → Option Text × State) (probe : Probe State) (package : Text) :
    Option Text × Probe State :=
  match probe.answers.lookup package with
  | some answer => (answer, probe)
  | none =>
    let (answer, tool) := query probe.tool package
    (answer, { tool, answers := probe.answers ++ [(package, answer)] })

/-- The answers for several packages, one after the other. -/
def versions (query : State → Text → Option Text × State) (probe : Probe State) :
    List Text → List (Option Text) × Probe State
  | [] => ([], probe)
  | package :: rest =>
    let (answer, probe) := probe.version query package
    let (answers, probe) := probe.versions query rest
    (answer :: answers, probe)

/-- The remembered answer for a package; none also when it was not asked for. -/
def remembered (probe : Probe State) (package : Text) : Option Text :=
  (probe.answers.lookup package).join

end Probe

/-- One toolchain step and the package that provides it. -/
structure PackageRow where
  language : Text
  /-- None for a step that runs what an earlier step built. -/
  package : Option Text
  version : Option Text
  deriving DecidableEq, Repr

/-- One row for each step, in relay order. -/
def packageRows (version : Text → Option Text) (toolchains : List Toolchain) : List PackageRow :=
  toolchains.flatMap fun toolchain => toolchain.steps.map fun step =>
    { language := toolchain.name, package := step.package, version := step.package.bind version }

/-- Three cells of the table. -/
structure Cells (α : Type) where
  language : α
  package : α
  version : α
  deriving DecidableEq, Repr

/-- The head of the table. -/
def headCells : Cells Text :=
  { language := "language", package := "ubuntu package", version := "version" }

/-- The cells of a row. -/
def PackageRow.cells (row : PackageRow) : Cells Text :=
  { language := row.language
    package := row.package.getD "(none)"
    version := row.version.getD "-" }

/-- One more than the length of the longest text. -/
def columnWidth (cells : List Text) : Nat :=
  (cells.map fun cell => cell.length + 1).foldl max 0

/-- `cell` with spaces after it, up to `width` characters. -/
def padded (width : Nat) (cell : Text) : Text :=
  cell ++ List.replicate (width - cell.length) ' '

/-- A line of the table, without white space at its end. -/
def tableLine (widths : Cells Nat) (cells : Cells Text) : Text :=
  Text.trimEnd (Text.join "|" [padded widths.language cells.language,
    padded widths.package cells.package, padded widths.version cells.version])

/-- The widths of the columns, each one more than its longest cell. -/
def tableWidths (rows : List (Cells Text)) : Cells Nat :=
  { language := columnWidth (rows.map Cells.language)
    package := columnWidth (rows.map Cells.package)
    version := columnWidth (rows.map Cells.version) }

/-- The cells of the rule below the head. -/
def ruleCells (widths : Cells Nat) : Cells Text :=
  { language := List.replicate widths.language '-'
    package := List.replicate widths.package '-'
    version := List.replicate widths.version '-' }

/-- The lines of the table: the head, a rule, and one line for each row. -/
def tableLines (rows : List PackageRow) : List Text :=
  let cells := rows.map PackageRow.cells
  let widths := tableWidths (headCells :: cells)
  tableLine widths headCells :: tableLine widths (ruleCells widths)
    :: cells.map (tableLine widths)

/-- The table of package versions. -/
def versionTable (rows : List PackageRow) : Text :=
  (tableLines rows).flatMap fun line => line ++ ['\n']

end QuineRelay.Report
