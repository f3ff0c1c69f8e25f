import QuineRelay.Text.Columns
import QuineRelay.Verify.Failure

/-!
# Annotated snippets in plain text

The drawing that the commands use unless their host has another: a headline, the
line of the snippet that holds the character, two rows that draw the arrow, the
label at its end, and the note.

The arrow points at a column, not at a character: a tab reaches to the next
multiple of four, and other characters are as wide as a terminal shows them.
-/

namespace QuineRelay.Verify

namespace Snippet

/-- Whether a character ends a line. A carriage return and a newline together end
one line. -/
def endsLine (c : Char) : Bool :=
  let n := c.toNat
  (0x0A ≤ n && n ≤ 0x0D) || n == 0x85 || n == 0x2028 || n == 0x2029

/-- The lines of a text with their breaks; `line` is the one being read, in
reverse. -/
def linesFrom (line : Text) : Text → List Text
  | [] => if line.isEmpty then [] else [line.reverse]
  | '\r' :: '\n' :: rest => ('\n' :: '\r' :: line).reverse :: linesFrom [] rest
  | c :: rest =>
    if endsLine c then (c :: line).reverse :: linesFrom [] rest else linesFrom (c :: line) rest

/-- A line and where it is: its number, from one, and the position of its first
character. -/
structure Place where
  number : Nat
  start : Nat
  line : Text
  deriving DecidableEq, Repr

/-- The last of `lines` that starts at or before `position`; the first of them
has the given number and start. -/
def placeFrom? (position number start : Nat) : List Text → Option Place
  | [] => none
  | line :: rest =>
    if start ≤ position then
      (placeFrom? position (number + 1) (start + line.length) rest).or (some ⟨number, start, line⟩)
    else none

/-- Whether a character is a control character. -/
def isControl (c : Char) : Bool :=
  c.toNat < 0x20 || (0x7F ≤ c.toNat && c.toNat < 0xA0)

/-- The width of the character in column `column` of a line; a column past the
end of the line is one wide. -/
def width (column : Nat) : Option Char → Nat
  | none => 1
  | some c =>
    if c = '\t' then 4 - column % 4
    else if Text.isBlank c || isControl c then 1
    else Text.columns c

/-- One character of a line as it is shown. -/
def shownChar (column : Nat) (c : Char) : Text :=
  if c = '\t' then List.replicate (width column (some c)) ' '
  else if Text.isBlank c then " "
  else [c]

/-- A line as it is shown. -/
def shownLine (line : Text) : Text :=
  line.zipIdx.flatMap fun (c, column) => shownChar column c

/-- One row of the arrow below the text `shown`, over the given number of columns.
The column `target` is drawn as `first` and `fill`; the columns before and after
it repeat `before` and `after`. A column without width draws nothing. -/
def arrowRow (shown : Text) (columns target : Nat) (before first fill after : Char) : Text :=
  (List.range columns).flatMap fun column =>
    let wide := width column shown[column]?
    if column < target then List.replicate wide before
    else if column = target then
      match wide with
      | 0 => []
      | rest + 1 => first :: List.replicate rest fill
    else List.replicate wide after

/-- A snippet as it is drawn: the headline, the line with the arrow below it, and the
note. An empty snippet has no line, and only its headline is drawn. -/
def draw (snippet : Snippet) : Text :=
  let arrow := snippet.arrow
  "Error: " ++ snippet.headline ++ "\n" ++
    match placeFrom? arrow.start 1 0 (linesFrom [] snippet.text) with
    | none => []
    | some place =>
      let number := Text.decimal place.number
      let margin := List.replicate (number.length + 2) ' '
      let target := arrow.start - place.start
      let shown := Text.trimEnd place.line
      let columns := arrow.stop - place.start + 2
      let upper :=
        if arrow.start < arrow.stop then arrowRow shown columns target ' ' '┬' '─' ' '
        else arrowRow shown columns target ' ' '│' ' ' ' '
      let lower := arrowRow shown columns target ' ' '╰' '─' '─'
      margin ++ "╭─[<unknown>:" ++ number ++ ":" ++ Text.decimal (target + 1) ++ "]\n"
        ++ margin ++ "│\n"
        ++ " " ++ number ++ " │ " ++ shownLine shown ++ "\n"
        ++ margin ++ "│ " ++ upper ++ "\n"
        ++ margin ++ "│ " ++ lower ++ " " ++ arrow.label ++ "\n"
        ++ margin ++ "│ \n"
        ++ margin ++ "│ Note: " ++ snippet.note ++ "\n"
        ++ List.replicate (number.length + 2) '─' ++ "╯\n"

end Snippet

/-- The report of a mismatch in plain text. -/
def Mismatch.report (mismatch : Mismatch) : Text :=
  mismatch.annotated.draw

/-- The failure with its circumstances in plain text. -/
def Failure.report (failure : Failure) : Text :=
  failure.reportBy Snippet.draw

end QuineRelay.Verify
