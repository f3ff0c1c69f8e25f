import QuineRelay.Text.Quoted
import QuineRelay.Text.Utf8

/-!
# What a report of a mismatch shows

When a stage prints something other than the next source, the report shows the
expected text around the first difference, with an arrow at the character that
holds it and what was printed in its place. Bytes that are not text are shown as
replacement characters.

What is shown is data, an annotated snippet; how it is drawn is left to the host.
-/

namespace QuineRelay.Verify

/-- What an arrow points at and says. Positions count characters of the snippet. -/
structure Arrow where
  /-- The first character that is pointed at. -/
  start : Nat
  /-- The position after the last one; `start` when nothing is pointed at. -/
  stop : Nat
  label : Text
  deriving DecidableEq, Repr

/-- A part of a text with an arrow below one of its characters, and what is said
before and after it. -/
structure Snippet where
  headline : Text
  note : Text
  text : Text
  arrow : Arrow
  deriving DecidableEq, Repr

/-- A stage that printed something other than the next stage. -/
structure Mismatch where
  stage : Nat
  language : Text
  /-- The first byte at which the outputs differ. -/
  offset : Nat
  expected : Bytes
  actual : Bytes
  deriving DecidableEq, Repr

namespace Mismatch

/-- Bytes of context on each side of the difference. -/
def window : Nat := 60

/-- Number of characters at the front of a text that lie wholly within its first
`limit` bytes, beyond `count` earlier ones. -/
def charsWithinFrom (count limit : Nat) : Text → Nat
  | [] => count
  | c :: rest =>
    if Utf8.charSize c ≤ limit then charsWithinFrom (count + 1) (limit - Utf8.charSize c) rest
    else count

/-- Number of characters that lie wholly within the first `limit` bytes. -/
def charsWithin (limit : Nat) (text : Text) : Nat :=
  charsWithinFrom 0 limit text

/-- The expected output as text. -/
def expectedText (mismatch : Mismatch) : Text :=
  Utf8.decodeLossy mismatch.expected

/-- Character at which the snippet starts. -/
def snippetStart (mismatch : Mismatch) : Nat :=
  charsWithin (mismatch.offset - window) mismatch.expectedText

/-- Character at which the difference lies. -/
def position (mismatch : Mismatch) : Nat :=
  charsWithin mismatch.offset mismatch.expectedText

/-- Character before which the snippet stops. -/
def snippetStop (mismatch : Mismatch) : Nat :=
  charsWithin (mismatch.offset + window) mismatch.expectedText

/-! ## Places in bytes

The same three places as bytes of the expected text: each is reached by going back
from a byte to the boundary before it. -/

/-- The sum of two words, or the largest word where the sum is none. -/
def wordSum (a b : Nat) : Nat :=
  min (a + b) (Text.wordLimit - 1)

/-- The boundary at which the snippet starts. -/
def startByte? (mismatch : Mismatch) : Option Nat :=
  Utf8.floorBoundary? (Utf8.encode mismatch.expectedText) (mismatch.offset - window)

/-- The boundary of the character that the arrow points at. -/
def positionByte? (mismatch : Mismatch) : Option Nat :=
  let bytes := Utf8.encode mismatch.expectedText
  Utf8.floorBoundary? bytes (min mismatch.offset bytes.length)

/-- The boundary at which the snippet stops. -/
def stopByte? (mismatch : Mismatch) : Option Nat :=
  let bytes := Utf8.encode mismatch.expectedText
  Utf8.floorBoundary? bytes (min (wordSum mismatch.offset window) bytes.length)

/-! ## What is shown -/

/-- The expected text around the difference. -/
def snippet (mismatch : Mismatch) : Text :=
  (mismatch.expectedText.take mismatch.snippetStop).drop mismatch.snippetStart

/-- Bytes of the actual output that a label shows. -/
def labelLength : Nat := 16

/-- What the stage printed where the difference lies. -/
def label (mismatch : Mismatch) : Text :=
  if mismatch.actual.length ≤ mismatch.offset then "output ends here"
  else
    let printed := (mismatch.actual.drop mismatch.offset).take labelLength
    "printed " ++ Text.quoted (Utf8.decodeLossy printed) ++ " here"

/-- The arrow at the character that holds the difference, or at the end of the
snippet when there is no such character. -/
def arrow (mismatch : Mismatch) : Arrow :=
  let start := mismatch.position - mismatch.snippetStart
  { start
    stop := min (start + 1) (max mismatch.snippet.length start)
    label := mismatch.label }

/-- The expected text around the difference with the arrow, as it is reported. -/
def annotated (mismatch : Mismatch) : Snippet where
  headline :=
    "stage " ++ Text.decimal mismatch.stage ++ " (" ++ mismatch.language
      ++ ") did not print the next stage"
  note :=
    "expected " ++ Text.decimal mismatch.expected.length ++ " bytes, got "
      ++ Text.decimal mismatch.actual.length ++ "; first difference at byte "
      ++ Text.decimal mismatch.offset
  text := mismatch.snippet
  arrow := mismatch.arrow

end Mismatch

end QuineRelay.Verify
