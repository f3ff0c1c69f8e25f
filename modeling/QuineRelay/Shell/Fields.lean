import QuineRelay.Shell.Pattern

/-!
# Fields

What a word expands to before it is cut into fields: characters, of which some are
escaped, and quotation marks, which keep an empty field alive. Regions say which
characters came from a substitution that is not quoted, because only those can
separate fields.

White space among the separators is skipped around a field, and any other
separator ends one, so two of those enclose an empty field.
-/

namespace QuineRelay.Shell

/-- A character of an expanded word, or a quotation mark. -/
inductive Glyph where
  | mark
  | letter (c : Char) (isEscaped : Bool)
  deriving DecidableEq, Repr

namespace Glyph

/-- The character that separates arguments which must not be joined. -/
def argumentEnd : Char := '\x00'

/-- The characters of glyphs. -/
def chars (glyphs : List Glyph) : Text :=
  glyphs.filterMap fun
    | .mark => none
    | .letter c _ => some c

/-- The pattern that glyphs spell. -/
def pattern (glyphs : List Glyph) : List PatternChar :=
  Pattern.ofChars (glyphs.filterMap fun
    | .mark => none
    | .letter c isEscaped => some (c, isEscaped))

end Glyph

/-- Glyphs whose characters may separate fields. -/
structure Region where
  start : Nat
  stop : Nat
  /-- Whether only the ends of arguments separate fields here. -/
  isQuoted : Bool
  deriving DecidableEq, Repr

/-- A word that is being expanded. -/
structure Expanded where
  glyphs : Array Glyph := #[]
  /-- The regions, last first. -/
  regions : List Region := []
  /-- Whether the next character belongs to the last region. -/
  isRunning : Bool := false

namespace Expanded

/-- Number of glyphs. -/
def size (word : Expanded) : Nat :=
  word.glyphs.size

/-- Adds a quotation mark. -/
def addMark (word : Expanded) : Expanded :=
  { word with glyphs := word.glyphs.push .mark, isRunning := false }

/-- Adds characters; `escapes` says which of them are escaped. -/
def addText (word : Expanded) (escapes : Char → Bool) (text : Text) : Expanded :=
  { word with
    glyphs := text.foldl (fun glyphs c => glyphs.push (.letter c (escapes c))) word.glyphs
    isRunning := false }

/-- Adds a region that goes up to the last glyph. -/
def addRegion (word : Expanded) (start : Nat) (isQuoted : Bool) : Expanded :=
  { word with
    regions := { start, stop := word.size, isQuoted } :: word.regions
    isRunning := false }

/-- Adds a character that may separate fields; neighbours share a region. -/
def addSeparable (word : Expanded) (c : Char) : Expanded :=
  let glyphs := word.glyphs.push (.letter c false)
  match word.isRunning, word.regions with
  | true, last :: before =>
    { word with glyphs, regions := { last with stop := glyphs.size } :: before }
  | _, _ =>
    { glyphs
      regions := { start := word.size, stop := glyphs.size, isQuoted := false } :: word.regions
      isRunning := true }

/-- The glyphs from a place on. -/
def since (word : Expanded) (start : Nat) : List Glyph :=
  (word.glyphs.extract start word.size).toList

/-- Drops the glyphs from a place on, and the regions that start there. -/
def cutTo (word : Expanded) (start : Nat) : Expanded :=
  { glyphs := word.glyphs.extract 0 start
    regions := word.regions.filter fun region => region.start < start }

/-- Whether the word starts with arguments that are kept apart. -/
def startsApart (word : Expanded) : Bool :=
  word.regions.getLast?.any fun region =>
    region.isQuoted && (Glyph.chars (word.glyphs.toList.take region.start)).isEmpty

/-- Adds glyphs. -/
def addGlyphs (word : Expanded) (glyphs : List Glyph) : Expanded :=
  { word with glyphs := word.glyphs ++ glyphs.toArray, isRunning := false }

/-- The characters of the word. -/
def text (word : Expanded) : Text :=
  Glyph.chars word.glyphs.toList

end Expanded

namespace Fields

/-- Separators that make one separator with their neighbours. -/
def isBlankSeparator (c : Char) : Bool :=
  c = ' ' || c = '\t' || c = '\n' || c = Glyph.argumentEnd

/-- Where cutting a word into fields is. -/
structure Cursor where
  /-- The place at which the field starts. -/
  start : Nat := 0
  /-- Whether the last separator was white space, so that another one may follow
  it. -/
  afterBlank : Bool := false
  /-- The number of fields that may still be cut, if there is a limit. -/
  left : Option Nat
  /-- The place from which on the last field is dropped. -/
  stop? : Option Nat := none
  /-- The fields so far, last first, as places. -/
  fields : List (Nat × Nat) := []

/-- Ends a field at `index`, or notes where the last one ends. -/
def Cursor.cut (cursor : Cursor) (index : Nat) : Cursor :=
  match cursor.left with
  | some 1 => { cursor with left := some 0, stop? := some index }
  | left =>
    { cursor with
      left := left.map (· - 1)
      fields := (cursor.start, index) :: cursor.fields
      start := index + 1 }

/-- Reads the character at `index`, which stands in a region. `joins` says that
white space here does not make one separator with what follows it. -/
def Cursor.step (separators : Text) (joins : Bool) (cursor : Cursor) (index : Nat) (c : Char) :
    Cursor :=
  let isSeparator := c = Glyph.argumentEnd || separators.contains c
  let isBlank := isSeparator && isBlankSeparator c
  if cursor.left = some 0 then
    if isBlank then { cursor with stop? := cursor.stop?.or (some index) }
    else
      { cursor with
        stop? := if isSeparator && cursor.afterBlank then cursor.stop? else none
        afterBlank := false }
  else
    let isAbsorbed := cursor.afterBlank && isSeparator
    let cursor :=
      if cursor.afterBlank then { cursor with start := if isAbsorbed then index + 1 else index }
      else cursor
    if cursor.afterBlank && isBlank then cursor
    else if isSeparator && !isAbsorbed then
      let afterBlank := if joins then cursor.afterBlank else isBlank
      if index = cursor.start && afterBlank then
        { cursor with start := index + 1, afterBlank := false }
      else Cursor.cut { cursor with afterBlank } index
    else { cursor with afterBlank := false }

/-- Reads the characters of a region; `afterQuoted` says that the region before is
quoted. -/
def Cursor.readRegion (separators : Text) (glyphs : Array Glyph) (afterQuoted : Bool)
    (cursor : Cursor) (region : Region) : Cursor :=
  let separators := if region.isQuoted then [] else separators
  (List.range' region.start (region.stop - region.start)).foldl
    (fun (cursor : Cursor) (index : Nat) =>
      match glyphs[index]? with
      | some (.letter c _) =>
        cursor.step separators (afterQuoted || region.isQuoted) index c
      | _ => cursor)
    { cursor with afterBlank := false }

/-- Reads regions one after the other. -/
def Cursor.readRegions (separators : Text) (glyphs : Array Glyph) (afterQuoted : Bool)
    (cursor : Cursor) : List Region → Cursor
  | [] => cursor
  | region :: rest =>
    Cursor.readRegions separators glyphs region.isQuoted
      (cursor.readRegion separators glyphs afterQuoted region) rest

/-- The fields of a word, at most `limit` of them. -/
def split (separators : Text) (limit : Option Nat) (word : Expanded) : List (List Glyph) :=
  let regions := word.regions.reverse
  let cursor := Cursor.readRegions separators word.glyphs false { left := limit } regions
  let stop := cursor.stop?.getD word.size
  let keepsEmpty := regions.getLast?.any Region.isQuoted
  let places :=
    if cursor.start < stop || keepsEmpty then (cursor.start, stop) :: cursor.fields
    else cursor.fields
  places.reverse.map fun place => (word.glyphs.extract place.1 place.2).toList

end Fields

end QuineRelay.Shell
