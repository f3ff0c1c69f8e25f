import QuineRelay.Report.Packages
import QuineRelay.Report.Script
import QuineRelay.Report.Versions
import QuineRelay.Text.Numeral
import QuineRelay.Text.Split

/-!
# The README

The document that goes with a relay: the ring of its languages, how to install
and run every stage, and the versions of the packages it was tested with.
-/

namespace QuineRelay.Report

/-- `line` and a newline. -/
def line (text : Text) : Text :=
  text ++ ['\n']

/-- `text` as a paragraph: a line and an empty line. -/
def paragraph (text : Text) : Text :=
  text ++ "\n\n"

/-- A link of the ring. -/
def ringLink (name : Text) : Text :=
  line (name ++ " program that generates")

/-- The ring of languages. After the origin, up to three languages are named; of
more, the first two and the last. -/
def ring : List Text → Text
  | [] => []
  | first :: rest =>
    let links := match rest with
      | second :: third :: _ :: _ :: _ =>
        ringLink second ++ ringLink third
          ++ line ("...(through " ++ Text.decimal (rest.length + 1) ++ " languages in total)...")
          ++ ringLink (rest.getLastD [])
      | _ => rest.flatMap ringLink
    line ("This is a " ++ first ++ " program that generates") ++ links
      ++ paragraph ("the original " ++ first ++ " code again.")

/-- A command as it is shown. -/
def shownCommand (command : Text) : Text :=
  line ("    $ " ++ command)

/-- The README of a relay through these toolchains, the origin's first. -/
def readme (version : Text → Option Text) (toolchains : List Toolchain) : Text :=
  let originFile : Text := (toolchains.head?.map Toolchain.file).getD "QR.rb"
  let table := Text.lines (versionTable (packageRows version toolchains))
  paragraph "# Uroboros"
    ++ paragraph "### What this is"
    ++ ring (toolchains.map Toolchain.name)
    ++ paragraph "### Usage"
    ++ paragraph "#### 1. Install all interpreters/compilers."
    ++ paragraph "On Ubuntu, the following apt-get command installs all of them."
    ++ paragraph ("    $ " ++ installCommand toolchains)
    ++ paragraph "#### 2. Run each program on each interpreter/compiler."
    ++ (commands toolchains).flatMap shownCommand
    ++ "\n"
    ++ paragraph ("You will see that `" ++ originFile ++ "` is the same as `" ++ finalFile ++ "`.")
    ++ paragraph ("    $ diff " ++ originFile ++ " " ++ finalFile)
    ++ paragraph ("Alternatively, `uroc verify` runs every stage and reports the first\n" ++
      "byte where a stage's output differs from the next source.")
    ++ paragraph "### Tested interpreter/compiler versions"
    ++ paragraph "The relay was tested with the following deb packages:"
    ++ table.flatMap (fun row => line ("    " ++ row))
    ++ "\n"
    ++ paragraph "### How to re-generate the source"
    ++ shownCommand ("uroc generate -o " ++ originFile)
    ++ shownCommand "uroc readme -o README.md"

end QuineRelay.Report
