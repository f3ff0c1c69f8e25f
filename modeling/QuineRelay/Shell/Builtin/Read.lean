import QuineRelay.Shell.Builtin.Options
import QuineRelay.Shell.Fields

/-!
# Reading lines

The command `read` takes one line from its input and cuts it into fields, the last
of which is the rest of the line. A backslash takes its meaning from the character
after it, and joins lines.
-/

namespace QuineRelay.Shell.Builtin

open Session

/-- A line that is being read. -/
structure LineRead where
  word : Expanded := {}
  /-- The place at which the last region starts. -/
  start : Nat := 0
  /-- Number of bytes that were read. -/
  size : Nat := 0
  /-- Whether the line was ended by a newline. -/
  isComplete : Bool := false

/-- The line with the region that is open closed. -/
def LineRead.close (line : LineRead) : LineRead :=
  { line with
    word := { line.word with
      regions := { start := line.start, stop := line.word.size, isQuoted := false } ::
        line.word.regions } }

/-- The line with a character that is escaped or not. -/
def LineRead.put (line : LineRead) (isEscaped : Bool) (c : Char) : LineRead :=
  if isEscaped then
    let line := line.close
    let word := line.word.addText (fun _ => true) [c]
    { line with word, start := word.size }
  else { line with word := line.word.addText (fun _ => false) [c] }

/-- Reads the rest of a line. `isEscaped` tells whether a backslash comes before. -/
def readLineFrom (isRaw isEscaped : Bool) (line : LineRead) : Bytes → LineRead
  | [] => line.close
  | byte :: rest =>
    let line := { line with size := line.size + 1 }
    let c := Char.ofNat byte.toNat
    if byte = 0 then readLineFrom isRaw isEscaped line rest
    else if isEscaped then
      if c = '\n' then
        let line := line.close
        readLineFrom isRaw false { line with start := line.word.size } rest
      else readLineFrom isRaw false (line.put true c) rest
    else if c = '\\' && !isRaw then readLineFrom isRaw true line rest
    else if c = '\n' then { line.close with isComplete := true }
    else readLineFrom isRaw false (line.put false c) rest

/-- Sets variables to fields; those that are left over become empty. -/
def setFields : List Text → List Text → Action Unit
  | [], _ => return
  | name :: names, fields => do
    setVariable name (some (fields.headD []))
    setFields names fields.tail

/-- Reads a line into variables. It fails at the end of the input. -/
def readCommand (arguments : List Text) : Action Nat := do
  let (flags, names) ← options "p:r" arguments
  if names.isEmpty then raise "arg count"
  let isRaw := flags.any fun flag => flag.1 = 'r'
  let session ← get
  let line := match session.unreadBytes 0 with
    | .ok bytes => readLineFrom isRaw false {} bytes
    | .error _ => LineRead.close {}
  set (session.skipBytes 0 line.size)
  let fields := Fields.split (separators session.toProcess) (some names.length) line.word
  setFields names (fields.map Glyph.chars)
  return if line.isComplete then 0 else 1

end QuineRelay.Shell.Builtin
