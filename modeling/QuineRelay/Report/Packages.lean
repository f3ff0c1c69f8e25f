import QuineRelay.Text.Utf8
import QuineRelay.Toolchain

/-!
# The install command

One shell command installs the packages of all toolchains: every package once,
in byte order, on lines of limited length that continue with a backslash.
-/

namespace QuineRelay.Report

/-- Largest number of bytes on a line, before its continuation mark. -/
def installWidth : Nat := 70

/-- How the install command begins. -/
def installOpening : Text := "sudo apt-get install"

/-- What stands between two lines of the install command. -/
def continuation : Text := " \\\n      "

/-- Byte order of texts. -/
def byteOrder (a b : Text) : Bool :=
  Utf8.encode a ≤ Utf8.encode b

/-- Every package of the toolchains once, in byte order. -/
def packages (toolchains : List Toolchain) : List Text :=
  ((toolchains.flatMap Toolchain.packages).eraseDups).mergeSort byteOrder

/-- Appends words to `line` as long as it stays within the width, and starts a
new line with the first word that does not fit. `done` holds the finished lines
in reverse. -/
def wrapFrom (done : List Text) (line : Text) : List Text → List Text
  | [] => (line :: done).reverse
  | word :: rest =>
    if Utf8.size line + 1 + Utf8.size word > installWidth then wrapFrom (line :: done) word rest
    else wrapFrom done (line ++ ' ' :: word) rest

/-- The command that installs every package of the toolchains. -/
def installCommand (toolchains : List Toolchain) : Text :=
  Text.join continuation (wrapFrom [] installOpening (packages toolchains))

end QuineRelay.Report
