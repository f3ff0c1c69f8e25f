import QuineRelay.Text.Basic

/-!
# Files

A file system as a value: the files and directories below a working directory,
each under its path. Verification and the command line work on such a value, so
what they do to files is part of their result.

A path is a list of names from the working directory down. An absolute path
begins with the name `/`, and a path that leaves the working directory upwards
begins with `..`. Outside the working directory there are only a few directories
and the device that discards what is written to it.

Errors are those of the operating system, and so is the order in which they are
found: a path is followed name by name, and every name but the last must be a
directory.
-/

namespace QuineRelay

/-- Names from the working directory, or from the root, down. -/
abbrev Path := List Text

namespace Path

/-- The name that begins an absolute path. -/
def root : Text := "/"

/-- The name of the directory that a path has reached. -/
def here : Text := "."

/-- The name of the directory above it. -/
def above : Text := ".."

/-- Whether the text of a path starts at the root. -/
def isAbsolute (text : Text) : Bool :=
  text.head? == some '/'

/-- The text of `file` as seen from the directory `directory`. -/
def joinText (directory file : Text) : Text :=
  if isAbsolute file || directory.isEmpty then file
  else if directory.getLast? == some '/' then directory ++ file
  else directory ++ '/' :: file

/-- The names in the text of a path. An empty name means the same as `here`. -/
def names (text : Text) : List Text :=
  (Text.splitOn '/' text).map fun name => if name.isEmpty then here else name

/-- The text of a path, in reverse, without the separators and the names of the
current directory at its end. -/
def dropTrailing : Text → Text
  | [] => []
  | ['/'] => ['/']
  | '/' :: rest => dropTrailing rest
  | ['.', '/'] => ['/']
  | '.' :: '/' :: rest => dropTrailing rest
  | text => text

/-- The text of the directory that holds a path: empty for a single name, none
for the root and for no path at all. -/
def parentText? (text : Text) : Option Text :=
  match dropTrailing text.reverse with
  | [] => none
  | ['/'] => none
  | reversed => some (dropTrailing (reversed.dropWhile (· ≠ '/'))).reverse

/-- The text that names a path. -/
def text (path : Path) : Text :=
  match path with
  | [] => here
  | name :: rest => if name = root then name ++ Text.join "/" rest else Text.join "/" path

/-- Whether a path is the working directory or one of the directories above. -/
def isAscent (path : Path) : Bool :=
  path.all (· = above)

/-- Whether a path leads out of the working directory. -/
def isOutside (path : Path) : Bool :=
  path.head? == some root || path.head? == some above

/-- The path one name up. Nothing is above the root. -/
def up (path : Path) : Path :=
  if path = [root] then path
  else if path.isAscent then above :: path
  else path.dropLast

/-- The path that a name leads to from `path`. -/
def step (path : Path) (name : Text) : Path :=
  if name = here then path else if name = above then path.up else path ++ [name]

end Path

/-- What stands at a path. -/
inductive Entry where
  | file (content : Bytes) (executable : Bool)
  | directory
  /-- A device that holds nothing and discards what is written. -/
  | sink
  deriving DecidableEq, Repr

/-- Why an operation on files fails. -/
inductive FileError where
  | missing
  | present
  | notDirectory
  | isDirectory
  deriving DecidableEq, Repr

namespace FileError

/-- The wording of an error. -/
def reason : FileError → Text
  | .missing => "No such file or directory"
  | .present => "File exists"
  | .notDirectory => "Not a directory"
  | .isDirectory => "Is a directory"

/-- The wording of an error with its system number. -/
def message : FileError → Text
  | .missing => reason .missing ++ " (os error 2)"
  | .present => reason .present ++ " (os error 17)"
  | .notDirectory => reason .notDirectory ++ " (os error 20)"
  | .isDirectory => reason .isDirectory ++ " (os error 21)"

end FileError

/-- A file system: every file and directory with its path. The working directory
itself is not listed. -/
structure Files where
  entries : List (Path × Entry)
  deriving DecidableEq, Repr

namespace Files

/-- An empty working directory. -/
def empty : Files :=
  { entries := [([Path.root, "bin"], .directory), ([Path.root, "dev"], .directory),
      ([Path.root, "dev", "null"], .sink), ([Path.root, "root"], .directory),
      ([Path.root, "tmp"], .directory), ([Path.root, "usr"], .directory),
      ([Path.root, "usr", "bin"], .directory)] }

/-- What stands at a path. -/
def entry? (files : Files) (path : Path) : Option Entry :=
  if path.isAscent || path = [Path.root] then some .directory else files.entries.lookup path

/-- Puts an entry at a path, in place of what stood there. -/
def put (files : Files) (path : Path) (entry : Entry) : Files :=
  if (files.entries.lookup path).isSome then
    { entries := files.entries.map fun old => if old.1 = path then (path, entry) else old }
  else { entries := files.entries ++ [(path, entry)] }

/-- Removes a path and all that is below it. -/
def remove (files : Files) (path : Path) : Files :=
  { entries := files.entries.filter fun entry => !path.isPrefixOf entry.1 }

/-- Follows names from the directory `path`; every place that another name
follows has to be a directory. -/
def follow (files : Files) (path : Path) : List Text → Except FileError Path
  | [] => .ok path
  | name :: rest =>
    match files.entry? path with
    | none => .error .missing
    | some .directory => files.follow (path.step name) rest
    | some _ => .error .notDirectory

/-- The path that a text names, seen from the directory `base`. -/
def resolve (files : Files) (base : Path) (text : Text) : Except FileError Path :=
  if text.isEmpty then .error .missing
  else if Path.isAbsolute text then files.follow [Path.root] (Path.names text)
  else files.follow base (Path.names text)

/-- The entry that a text names. -/
def find (files : Files) (base : Path) (text : Text) : Except FileError Entry :=
  match files.resolve base text with
  | .error e => .error e
  | .ok path =>
    match files.entry? path with
    | some entry => .ok entry
    | none => .error .missing

/-- The content of the file that a text names. -/
def read (files : Files) (base : Path) (text : Text) : Except FileError Bytes :=
  match files.find base text with
  | .error e => .error e
  | .ok (.file content _) => .ok content
  | .ok .directory => .error .isDirectory
  | .ok .sink => .ok []

/-- The path at which a file of this name may be written: the name may be new,
but a name that ends with a separator cannot be a file. -/
def writable (files : Files) (base : Path) (text : Text) : Except FileError Path :=
  if text.getLast? = some '/' then
    match files.resolve base text, files.resolve base text.dropLast with
    | .ok _, _ => .error .isDirectory
    | .error .missing, .ok _ => .error .isDirectory
    | .error e, _ => .error e
  else
    match files.resolve base text with
    | .error e => .error e
    | .ok path => if files.entry? path = some .directory then .error .isDirectory else .ok path

/-- Writes a file, in place of its earlier content. -/
def write (files : Files) (base : Path) (text : Text) (content : Bytes) :
    Except FileError Files :=
  match files.writable base text with
  | .error e => .error e
  | .ok path =>
    match files.entry? path with
    | some .sink => .ok files
    | some (.file _ executable) => .ok (files.put path (.file content executable))
    | _ => .ok (files.put path (.file content false))

/-- Makes the directories named from `path` on that do not exist yet. A name that is
taken by something else is an error: `notDirectory` when other names follow it. -/
def makeFrom (files : Files) (path : Path) : List Text → Except FileError Files
  | [] => .ok files
  | name :: rest =>
    let next := path.step name
    match files.entry? next with
    | some .directory => files.makeFrom next rest
    | none => (files.put next .directory).makeFrom next rest
    | some _ => .error (if rest.isEmpty then .present else .notDirectory)

/-- Makes a directory and all directories above it that do not exist yet.

When this fails, the directories made on the way are dropped, and the error for a name
that other names follow is `notDirectory`. A system keeps them and may report `present`.
The two can differ only where a path leads out of a directory that it has just made,
through `..`, and on to a name that is taken: otherwise nothing stands below what is
new, so a taken name comes first and nothing has been made before it. -/
def makeDirectories (files : Files) (base : Path) (text : Text) : Except FileError Files :=
  if text.isEmpty then .ok files
  else if Path.isAbsolute text then files.makeFrom [Path.root] (Path.names text)
  else files.makeFrom base (Path.names text)

/-- The files below the working directory, each with the text of its path. -/
def listing (files : Files) : List (Text × Bytes) :=
  files.entries.filterMap fun entry =>
    match entry with
    | (path, .file content _) =>
      if path.isOutside then none else some (path.text, content)
    | _ => none

end Files

end QuineRelay
