import QuineRelay.Shell.Utility.Usage

/-!
# Concatenating files

The utility `cat` copies files and its input to its output. On the way lines can
be numbered, repeated empty lines dropped, and characters that cannot be seen made
visible.
-/

namespace QuineRelay.Shell.Utility

open Session

/-- How lines are shown. -/
structure LineStyle where
  numbers : Bool
  numbersOnlyFilled : Bool
  dropsRepeated : Bool
  showsControls : Bool
  showsEnds : Bool
  showsTabs : Bool

/-- Whether lines are changed at all. -/
def LineStyle.isPlain (style : LineStyle) : Bool :=
  !(style.numbers || style.dropsRepeated || style.showsControls || style.showsEnds
    || style.showsTabs)

/-- Where showing lines is: the number of the last line, and how many newlines come
before; inside a line there is none. -/
structure LineCursor where
  number : Nat := 0
  newlines : Option Nat := some 0

/-- A character made visible. `next` is the one behind it. -/
def visible (style : LineStyle) (c : Char) (next : Option Char) : Text :=
  let code := c.toNat
  let caret (code : Nat) : Text := ['^', Char.ofNat (code + 64)]
  if c = '\t' then (if style.showsTabs then "^I" else [c])
  else if style.showsControls then
    if code < 32 then caret code
    else if code < 127 then [c]
    else if code = 127 then "^?"
    else if code < 160 then "M-" ++ caret (code - 128)
    else if code < 255 then "M-" ++ [Char.ofNat (code - 128)]
    else "M-^?"
  else if c = '\r' && style.showsEnds && next = some '\n' then "^M"
  else [c]

/-- The number in front of a line. -/
def lineNumber (n : Nat) : Text :=
  let digits := Text.decimal n
  List.replicate (6 - digits.length) ' ' ++ digits ++ "\t"

/-- Shows text, with `done` as the output before it, in reverse. -/
def showFrom (style : LineStyle) (cursor : LineCursor) (done : Text) :
    Text → LineCursor × Text
  | [] => (cursor, done.reverse)
  | c :: rest =>
    if c = '\n' then
      let ending : Text := if style.showsEnds then "$\n" else "\n"
      match cursor.newlines with
      | none => showFrom style { cursor with newlines := some 0 } (ending.reverse ++ done) rest
      | some count =>
        if style.dropsRepeated && 1 ≤ count then showFrom style cursor done rest
        else if style.numbers && !style.numbersOnlyFilled then
          let number := cursor.number + 1
          showFrom style { number, newlines := some (count + 1) }
            (ending.reverse ++ (lineNumber number).reverse ++ done) rest
        else
          showFrom style { cursor with newlines := some (count + 1) } (ending.reverse ++ done) rest
    else
      let shown := (visible style c rest.head?).reverse
      if cursor.newlines.isSome && style.numbers then
        let number := cursor.number + 1
        showFrom style { number, newlines := none }
          (shown ++ (lineNumber number).reverse ++ done) rest
      else showFrom style { cursor with newlines := none } (shown ++ done) rest

/-- The options of `cat`. -/
def concatenateOptions : OptionTable where
  short := ("AbeEnstTuv".toList).map fun c => (c, .none)
  long := [
    { name := "number-nonblank", letter := 'b' }, { name := "number", letter := 'n' },
    { name := "squeeze-blank", letter := 's' }, { name := "show-nonprinting", letter := 'v' },
    { name := "show-ends", letter := 'E' }, { name := "show-tabs", letter := 'T' },
    { name := "show-all", letter := 'A' }, { name := "help", letter := '1' },
    { name := "version", letter := '2' }]

/-- The style that options ask for. -/
def lineStyle (usage : Usage) : LineStyle :=
  let any (letters : List Char) : Bool := letters.any usage.has
  { numbers := any ['n', 'b']
    numbersOnlyFilled := usage.has 'b'
    dropsRepeated := usage.has 's'
    showsControls := any ['v', 'A', 'e', 't']
    showsEnds := any ['E', 'A', 'e']
    showsTabs := any ['T', 'A', 't'] }

/-- Whether a file with bytes left is the file that the output goes to. -/
def isOutput (session : Session) (path : Option Path) (content : Bytes) : Bool :=
  path.isSome && path = session.fileOf? 1 && !content.isEmpty

/-- What stands in the file of a name, or is left of the input. -/
def contentFor (session : Session) (name : Text) : Except Text (Option Path × Bytes) :=
  if name = ['-'] then
    match session.unreadBytes 0 with
    | .ok bytes => .ok (session.fileOf? 0, bytes)
    | .error fault => .error fault.reason
  else
    match (deviceDescriptor? name) with
    | some descriptor =>
      match session.streamIndex? descriptor, session.fileOf? descriptor,
          session.unreadBytes descriptor with
      | none, _, _ => .error (FileError.reason .missing)
      | _, some path, _ => .ok (some path, session.contentOf path)
      | _, none, .ok bytes => .ok (none, bytes)
      | _, none, .error fault => .error fault.reason
    | none =>
      match Place.resolve session.files session.directory name,
          Place.find session.files session.directory name with
      | .error e, _ | _, .error e => .error e.reason
      | .ok _, .ok .directory => .error (FileError.reason .isDirectory)
      | .ok path, .ok (.file content _) => .ok (some path, content)
      | .ok _, .ok .sink => .ok (none, [])

/-- Copies files; the result tells whether all of them could be read. -/
def copyFiles (style : LineStyle) (cursor : LineCursor) (isFine : Bool) :
    List Text → Action Bool
  | [] => return isFine
  | name :: names => do
    let session ← get
    match contentFor session name with
    | .error reason =>
      report "cat" (shellName name ++ ": " ++ reason)
      copyFiles style cursor false names
    | .ok (path, content) =>
      if isOutput session path content then
        report "cat" (shellName name ++ ": input file is output file")
        copyFiles style cursor false names
      else
        if name = ['-'] then
          modify fun session => session.skipBytes 0 content.length
        let (after, text) := showFrom style cursor [] (ofBytes content)
        if ← putBytes 1 (if style.isPlain then content else toBytes text) then
          copyFiles style after isFine names
        else
          report "cat" ("write error: " ++ StreamFault.reason .notOpen)
          return false

/-- Copies files and the input to the output. -/
def concatenate (arguments : List Text) : Action Nat := do
  match read concatenateOptions arguments with
  | .error message => failUsage "cat" message
  | .ok usage =>
    if ((← get).streamIndex? 1).isNone then
      fail "cat" ("standard output: " ++ StreamFault.reason .notOpen)
    else
      let names := if usage.operands.isEmpty then [['-']] else usage.operands
      let isFine ← copyFiles (lineStyle usage) {} true names
      if names.contains ['-'] && ((← get).streamIndex? 0).isNone then
        fail "cat" ("closing standard input: " ++ StreamFault.reason .notOpen)
      else return if isFine then 0 else 1

end QuineRelay.Shell.Utility
