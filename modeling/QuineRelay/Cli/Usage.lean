import QuineRelay.Language.Standard
import QuineRelay.Text.Numeral

/-!
# Usage, version and languages

The texts that the command line prints about itself.
-/

namespace QuineRelay.Cli

/-- The version of the program. -/
def version : Text := "0.1.0-alpha.1"

/-- The line that shows the version. -/
def versionLine : Text := "uroc " ++ version ++ "\n"

/-- How the program is used. -/
def usage : Text :=
  "Uroboros quine relay generator\n" ++
  "\n" ++
  "Usage: uroc <command> [options]\n" ++
  "\n" ++
  "Commands:\n" ++
  "  generate             Write the origin program (stdout by default)\n" ++
  "  verify               Run every stage and compare it with the next\n" ++
  "  readme               Render the README for the relay\n" ++
  "  langs                List the built-in languages\n" ++
  "  help                 Show this help message\n" ++
  "  version              Show version information\n" ++
  "\n" ++
  "Common options:\n" ++
  "  --langs=<a,b,..>     Relay through these languages instead of the\n" ++
  "                       standard ring (names or file extensions)\n" ++
  "\n" ++
  "Generate options:\n" ++
  "  -o <path>            Write the origin program to <path>\n" ++
  "  --all                Write every stage into the current directory\n" ++
  "  --dir=<dir>          Write every stage into <dir>\n" ++
  "  --width=<n>          Line width of the embedded kernel (default: 80)\n" ++
  "  --max-size=<bytes>   Largest stage source allowed\n" ++
  "\n" ++
  "Verify options:\n" ++
  "  --filter=<name>      Only run stages whose language matches\n" ++
  "  --keep=<dir>         Keep stage directories under <dir>\n" ++
  "  --no-parallel        Run stages sequentially\n" ++
  "  --verbose, -v        Show passing stages\n" ++
  "\n" ++
  "Readme options:\n" ++
  "  -o <path>            Write to <path> instead of stdout\n" ++
  "  --no-probe           Do not query dpkg for package versions\n" ++
  "\n" ++
  "Examples:\n" ++
  "  uroc generate -o QR.rb\n" ++
  "  uroc generate --dir=out --langs=python,c,bf\n" ++
  "  uroc verify --filter=haskell -v\n" ++
  "  uroc readme -o README.md\n"

/-- `text` with spaces after it, up to `width` characters. -/
def leftAligned (width : Nat) (text : Text) : Text :=
  text ++ List.replicate (width - text.length) ' '

/-- The digits of `n` with spaces before them, up to `width` characters. -/
def rightAligned (width n : Nat) : Text :=
  List.replicate (width - (Text.decimal n).length) ' ' ++ Text.decimal n

/-- The line of a language: its place in the relay, name, file and packages. -/
def languageLine (index : Nat) (toolchain : Toolchain) : Text :=
  "  " ++ rightAligned 2 index ++ "  " ++ leftAligned 12 toolchain.name ++ " "
    ++ leftAligned 9 toolchain.file ++ " " ++ Text.join " " toolchain.packages ++ "\n"

/-- The origin and the standard languages in relay order. -/
def languageList : Text :=
  let toolchains := Language.origin :: Language.standard.map Language.toolchain
  "Languages (standard relay order):\n\n"
    ++ toolchains.zipIdx.flatMap (fun (toolchain, index) => languageLine index toolchain)
    ++ "\nSelect a chain with --langs=<name>,<name>,.. (names or file extensions).\n"

end QuineRelay.Cli
