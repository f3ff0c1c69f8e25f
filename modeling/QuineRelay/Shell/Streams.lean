import QuineRelay.Shell.Places
import QuineRelay.Shell.Session

/-!
# Descriptors and streams

Reading, writing and opening. A descriptor leads to a stream, and processes that
share a stream share the place in it, so what one of them reads is gone for the
others. The error messages of the shell are written here too.
-/

namespace QuineRelay.Shell

/-- Why a descriptor cannot be used. -/
inductive StreamFault where
  | notOpen
  | isDirectory
  deriving DecidableEq, Repr

/-- The wording of a fault. -/
def StreamFault.reason : StreamFault → Text
  | .notOpen => "Bad file descriptor"
  | .isDirectory => FileError.reason .isDirectory

/-- How a file is opened. -/
inductive OpenMode where
  | read | readWrite | write | append
  /-- Writes, but not into a file that exists. -/
  | create
  deriving DecidableEq, Repr

namespace Stream

/-- A file with bytes written into it at a place. -/
def overwrite (content : Bytes) (offset : Nat) (bytes : Bytes) : Bytes :=
  if offset = content.length then content ++ bytes
  else
    content.take offset ++ List.replicate (offset - content.length) 0 ++ bytes
      ++ content.drop (offset + bytes.length)

end Stream

namespace Session

/-- The stream of a descriptor. -/
def streamIndex? (session : Session) (descriptor : Nat) : Option Nat :=
  session.descriptors.lookup descriptor

/-- The content of a file. -/
def contentOf (session : Session) (path : Path) : Bytes :=
  match session.files.entry? path with
  | some (.file content _) => content
  | _ => []

/-- The file that a descriptor leads to. -/
def fileOf? (session : Session) (descriptor : Nat) : Option Path :=
  match (session.streamIndex? descriptor).bind (session.streams[·]?) with
  | some (.file path ..) => some path
  | _ => none

/-- What is still to be read from a descriptor. -/
def unreadBytes (session : Session) (descriptor : Nat) : Except StreamFault Bytes :=
  match (session.streamIndex? descriptor).bind (session.streams[·]?) with
  | some (.file path offset true _ _) => .ok ((session.contentOf path).drop offset)
  | some (.source rest) => .ok rest
  | some .sink => .ok []
  | some .directory => .error .isDirectory
  | _ => .error .notOpen

/-- The session after bytes were read from a descriptor. -/
def skipBytes (session : Session) (descriptor count : Nat) : Session :=
  match session.streamIndex? descriptor with
  | none => session
  | some index =>
    { session with
      streams := session.streams.modify index fun
        | .file path offset reads writes appends =>
          .file path (offset + count) reads writes appends
        | .source rest => .source (rest.drop count)
        | stream => stream }

/-- The session after bytes were written to a stream; none when the stream cannot
be written. -/
def writeStream? (session : Session) (index : Nat) (bytes : Bytes) : Option Session :=
  match session.streams[index]? with
  | some (.collector written) =>
    some { session with
      streams := session.streams.set! index (.collector (bytes.reverse ++ written)) }
  | some .sink => some session
  | some (.file path offset reads true appends) =>
    let content := session.contentOf path
    let start := if appends then content.length else offset
    let isExecutable := match session.files.entry? path with
      | some (.file _ executable) => executable
      | _ => false
    some { session with
      files := session.files.put path (.file (Stream.overwrite content start bytes) isExecutable)
      streams := session.streams.set! index
        (.file path (start + bytes.length) reads true appends) }
  | _ => none

/-- The session after bytes were written to a descriptor; none when it cannot be
written. -/
def writeBytes? (session : Session) (descriptor : Nat) (bytes : Bytes) : Option Session :=
  (session.streamIndex? descriptor).bind fun index => session.writeStream? index bytes

/-- Writes bytes to a descriptor, and tells whether that was possible. -/
def putBytes (descriptor : Nat) (bytes : Bytes) : Action Bool := do
  if bytes.isEmpty then return true
  match (← get).writeBytes? descriptor bytes with
  | some session =>
    set session
    return true
  | none => return false

/-- Writes octets to the output of a builtin command, which fails if that is not
possible. -/
def putText (octets : Text) : Action Unit := do
  if !(← putBytes 1 (toBytes octets)) then
    modify fun session => { session with hasLostOutput := true }

/-- Writes octets to the error output. -/
def putError (octets : Text) : Action Unit := do
  let _ ← putBytes 2 (toBytes octets)

/-- The start of the error messages of a shell. -/
def errorLead (process : Process) : Text :=
  let lead := process.name ++ ": " ++ Text.decimal process.line ++ ": "
  match process.command with
  | none => lead
  | some command => lead ++ command ++ ": "

/-- Reports an error. -/
def warn (message : Text) : Action Unit := do
  putError (errorLead (← get).toProcess ++ message ++ "\n")

/-- Reports an error, which ends the shell unless it is caught. -/
def raise {α : Type} (message : Text) : Action α := do
  warn message
  setStatus 2
  throw .error

/-- Adds a stream, and gives its number. -/
def addStream (stream : Stream) : Action Nat :=
  modifyGet fun session =>
    (session.streams.size, { session with streams := session.streams.push stream })

/-- Where descriptors lead when one of them leads to a stream. -/
def led (descriptors : List (Nat × Nat)) (descriptor : Nat) (index : Option Nat) :
    List (Nat × Nat) :=
  let others := descriptors.filter fun entry => entry.1 ≠ descriptor
  match index with
  | none => others
  | some index => (descriptor, index) :: others

/-- Leads a descriptor to a stream, or closes it. -/
def lead (descriptor : Nat) (index : Option Nat) : Action Unit :=
  modify fun session => { session with descriptors := led session.descriptors descriptor index }

/-- The descriptor that the name of a device stands for. -/
def deviceDescriptor? (name : Text) : Option Nat :=
  if name = "/dev/stdin" then some 0
  else if name = "/dev/stdout" then some 1
  else if name = "/dev/stderr" then some 2
  else (Text.afterOpening? "/dev/fd/" name).bind Text.digits?

/-- The session after a file was opened, and the stream it was opened as. -/
def openFile (session : Session) (mode : OpenMode) (name : Text) :
    Except FileError (Stream × Session) :=
  let base := session.directory
  let readable : Bool := mode = .read || mode = .readWrite
  let writable : Bool := mode ≠ .read
  let opened (path : Path) : Stream := .file path 0 readable writable (mode = .append)
  match mode with
  | .read =>
    match Place.resolve session.files base name, Place.find session.files base name with
    | .error e, _ | _, .error e => .error e
    | .ok _, .ok .directory => .ok (.directory, session)
    | .ok _, .ok .sink => .ok (.sink, session)
    | .ok path, .ok _ => .ok (opened path, session)
  | _ =>
    match Place.writable session.files base name with
    | .error e => .error e
    | .ok path =>
      match session.files.entry? path with
      | some .sink => .ok (.sink, session)
      | some (.file content isExecutable) =>
        if mode = .create then .error .present
        else
          let content := if mode = .write then [] else content
          .ok (opened path,
            { session with files := session.files.put path (.file content isExecutable) })
      | _ => .ok (opened path, { session with files := session.files.put path (.file [] false) })

/-- Opens a file, and gives the number of its stream. The name of a device of the
process stands for the stream of one of its descriptors. -/
def openStream (mode : OpenMode) (name : Text) : Action (Except FileError Nat) := do
  let session ← get
  let device? := deviceDescriptor? name
  match device?, device?.bind session.streamIndex? with
  | some _, none => return .error .missing
  | some descriptor, some index =>
    match session.fileOf? descriptor with
    | none => return .ok index
    | some path =>
      let readable : Bool := mode = .read || mode = .readWrite
      return .ok (← addStream (.file path 0 readable (mode ≠ .read) (mode = .append)))
  | none, _ =>
    match session.openFile mode name with
    | .error e => return .error e
    | .ok (stream, session) =>
      set session
      return .ok (← addStream stream)

end Session

end QuineRelay.Shell
