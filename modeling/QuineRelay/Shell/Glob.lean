import QuineRelay.Shell.Pattern
import QuineRelay.Shell.Places

/-!
# Names that match

Patterns are replaced by the names of the files they match, in the order of their
octets. A pattern is matched name by name, and a name that starts with a dot is
matched only by a pattern that does.
-/

namespace QuineRelay.Shell.Glob

/-- The parts of a pattern between slashes. `part` is the one being read and `done`
holds those before, both in reverse. -/
def segmentsFrom (part : List PatternChar) (done : List (List PatternChar)) :
    List PatternChar → List (List PatternChar)
  | [] => (part.reverse :: done).reverse
  | (c, isEscaped) :: rest =>
    if c = '/' then segmentsFrom [] (part.reverse :: done) rest
    else segmentsFrom ((c, isEscaped) :: part) done rest

/-- The parts of a pattern between slashes. -/
def segments (pattern : List PatternChar) : List (List PatternChar) :=
  segmentsFrom [] [] pattern

/-- Whether a set starts after this bracket. -/
def closesSet (rest : List PatternChar) : Bool :=
  let elements := match rest with
    | ('!', false) :: elements => elements
    | _ => rest
  (elements.drop 1).contains (']', false)

/-- Whether a part of a pattern may match more than one name. -/
def isWild : List PatternChar → Bool
  | [] => false
  | (c, isEscaped) :: rest =>
    (!isEscaped && (c = '*' || c = '?' || (c = '[' && closesSet rest))) || isWild rest

/-- The names in a directory, including those of the directory itself and of the
one above. -/
def namesIn (files : Files) (base : Path) (directory : Text) : List Text :=
  let place := if directory.isEmpty then .ok base else Place.resolve files base directory
  match place with
  | .error _ => []
  | .ok path =>
    if files.entry? path = some .directory then
      [Path.here, Path.above] ++ files.entries.filterMap fun entry =>
        match entry.1.getLast? with
        | some name => if entry.1.dropLast = path then some (ofText name) else none
        | none => none
    else []

/-- The names that the rest of a pattern matches, after a beginning of their path
that is settled. -/
def expandFrom (files : Files) (base : Path) (settled : Text) :
    List (List PatternChar) → List Text
  | [] => []
  | [part] =>
    if isWild part then named part settled
    else
      let name := settled ++ part.map Prod.fst
      match Place.find files base name with
      | .ok _ => [name]
      | .error _ => []
  | part :: rest =>
    if isWild part then
      (named part settled).flatMap fun name => expandFrom files base (name ++ "/") rest
    else expandFrom files base (settled ++ part.map Prod.fst ++ "/") rest
where
  /-- The paths of the names in the settled directory that a part matches. -/
  named (part : List PatternChar) (settled : Text) : List Text :=
    let showsHidden := part.head?.any fun entry => entry.1 = '.'
    (namesIn files base settled).filterMap fun name =>
      if (name.head? = some '.' && !showsHidden) || !Pattern.fits part name then none
      else some (settled ++ name)

/-- The names that a pattern matches, in order. There are none for a pattern that
can match only one name. -/
def expand (files : Files) (base : Path) (pattern : List PatternChar) : List Text :=
  let parts := segments pattern
  if parts.any isWild then (expandFrom files base [] parts).mergeSort precedes else []

end QuineRelay.Shell.Glob
