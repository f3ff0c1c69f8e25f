import QuineRelay.Files
import QuineRelay.Shell.Octets

/-!
# Places

Names of files as the shell meets them: octets, seen from the working directory.
The directory in which a session starts has a fixed absolute name, so that a
command can go through that name too.
-/

namespace QuineRelay.Shell.Place

/-- The absolute name of the directory in which sessions start. -/
def start : Text := "/tmp/relay"

/-- The directory that a name starts from, and the rest of the name. -/
def origin (base : Path) (name : Text) : Path × Text :=
  match Text.afterOpening? start name with
  | some [] => ([], Path.here)
  | some ('/' :: rest) =>
    let rest := rest.dropWhile (· = '/')
    ([], if rest.isEmpty then Path.here else rest)
  | _ => (base, name)

/-- The path that a name leads to. -/
def resolve (files : Files) (base : Path) (name : Text) : Except FileError Path :=
  let (place, rest) := origin base (toText name)
  files.resolve place rest

/-- What stands at the place of a name. -/
def find (files : Files) (base : Path) (name : Text) : Except FileError Entry :=
  let (place, rest) := origin base (toText name)
  files.find place rest

/-- The path at which a file of this name may be written. -/
def writable (files : Files) (base : Path) (name : Text) : Except FileError Path :=
  let (place, rest) := origin base (toText name)
  files.writable place rest

/-- The absolute name of a directory. -/
def absoluteName (path : Path) : Text :=
  match path with
  | [] => start
  | first :: rest =>
    if first = Path.root then '/' :: ofText (Text.join "/" rest)
    else
      let ups := (path.takeWhile (· = Path.above)).length
      let names := (Text.splitOn '/' start).drop 1
      let front := names.take (names.length - ups)
      '/' :: Text.join "/" (front ++ (path.drop ups).map ofText)

end QuineRelay.Shell.Place
