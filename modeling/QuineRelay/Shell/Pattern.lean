import QuineRelay.Shell.Octets

/-!
# Patterns

Matching of octets. In a pattern `*` stands for any text, `?` for any octet, and
`[` starts a set of octets, which may be given by ranges and by classes and is
turned round by `!`. An escaped character stands for itself.
-/

namespace QuineRelay.Shell

/-- A character of a pattern, with whether it stands only for itself. -/
abbrev PatternChar := Char × Bool

namespace Pattern

/-- The pattern for characters some of which are escaped: a backslash that is not
escaped escapes the character after it. -/
def ofChars : List PatternChar → List PatternChar
  | [] => []
  | [('\\', false)] => [('\\', true)]
  | ('\\', false) :: (c, _) :: rest => (c, true) :: ofChars rest
  | c :: rest => c :: ofChars rest

/-- Place of an octet in the order that ranges follow: those that are not ASCII
come first. -/
def rank (c : Char) : Nat :=
  (c.toNat + 128) % octetLimit

/-- The classes of octets that have a name. -/
def classes : List (Text × (Char → Bool)) :=
  [("alnum", Char.isAlphanum),
   ("alpha", Char.isAlpha),
   ("blank", fun c => c = ' ' || c = '\t'),
   ("cntrl", fun c => c.toNat < 32 || c.toNat = 127),
   ("digit", Char.isDigit),
   ("graph", fun c => 32 < c.toNat && c.toNat < 127),
   ("lower", Char.isLower),
   ("print", fun c => 32 ≤ c.toNat && c.toNat < 127),
   ("punct", fun c => 32 < c.toNat && c.toNat < 127 && !c.isAlphanum),
   ("space", isSpace),
   ("upper", Char.isUpper),
   ("xdigit", fun c => c.isDigit || ('a' ≤ c && c ≤ 'f') || ('A' ≤ c && c ≤ 'F'))]

/-- The class that is named after the opening of a class, and the pattern behind
it. `name` holds the characters so far, in reverse. -/
def classFrom? (name : Text) : List PatternChar → Option ((Char → Bool) × List PatternChar)
  | (':', false) :: (']', false) :: rest =>
    (classes.lookup name.reverse).map fun holds => (holds, rest)
  | (c, _) :: rest => classFrom? (c :: name) rest
  | [] => none

/-- Reads one element of a set: whether it holds the octet, and the pattern behind
it. -/
def element (octet : Char) (pattern : List PatternChar) : Bool × List PatternChar :=
  match pattern with
  | [] => (false, [])
  | (c, isEscaped) :: rest =>
    let single : Bool × List PatternChar :=
      match rest with
      | ('-', false) :: (']', false) :: _ => (octet = c, rest)
      | ('-', false) :: (last, _) :: after =>
        (rank c ≤ rank octet && rank octet ≤ rank last, after)
      | _ => (octet = c, rest)
    if c = '[' && !isEscaped then
      match rest with
      | (':', false) :: name =>
        match classFrom? [] name with
        | some (holds, after) => (holds octet, after)
        | none => single
      | _ => single
    else single

/-- Whether a set holds an octet, and the pattern behind the set; none when the
set is not closed. The first element is read even when it is the closing bracket.
Every step reads one element. -/
def setFrom? (octet : Char) (found : Bool) (pattern : List PatternChar) :
    Nat → Option (Bool × List PatternChar)
  | 0 => none
  | steps + 1 =>
    if pattern.isEmpty then none
    else
      let (holds, rest) := element octet pattern
      match rest with
      | (']', false) :: after => some (found || holds, after)
      | _ => setFrom? octet (found || holds) rest steps

/-- Whether the set that starts after its bracket admits an octet, and the pattern
behind the set. -/
def set? (octet : Char) (pattern : List PatternChar) : Option (Bool × List PatternChar) :=
  match pattern with
  | ('!', false) :: rest =>
    (setFrom? octet false rest rest.length).map fun result => (!result.1, result.2)
  | _ => setFrom? octet false pattern pattern.length

/-- Whether a pattern matches all of a text. Every step takes a character of one
of the two. -/
def matchesFrom (pattern : List PatternChar) (text : Text) : Nat → Bool
  | 0 => false
  | steps + 1 =>
    match pattern, text with
    | [], _ => text.isEmpty
    | ('*', false) :: rest, [] => matchesFrom rest [] steps
    | ('*', false) :: ('*', false) :: rest, _ => matchesFrom (('*', false) :: rest) text steps
    | ('*', false) :: rest, _ :: after =>
      matchesFrom rest text steps || matchesFrom pattern after steps
    | _, [] => false
    | ('?', false) :: rest, _ :: after => matchesFrom rest after steps
    | ('[', false) :: rest, octet :: after =>
      match set? octet rest with
      | some (admits, behind) => admits && matchesFrom behind after steps
      | none => octet = '[' && matchesFrom rest after steps
    | (c, _) :: rest, octet :: after => octet = c && matchesFrom rest after steps

/-- Whether a pattern matches all of a text. -/
def fits (pattern : List PatternChar) (text : Text) : Bool :=
  matchesFrom pattern text (pattern.length + text.length + 1)

/-- Whether a pattern holds a character that may match more than itself. -/
def hasMeta (pattern : List PatternChar) : Bool :=
  pattern.any fun entry => entry.1 ∈ ['*', '?', '[']

/-- A text up to the first separator of fields. -/
def firstField (text : Text) : Text :=
  text.takeWhile (· ≠ '\x00')

/-- The shortest or longest beginning of a text that a pattern matches: the number
of its characters. Where fields are separated, only the first one is matched. -/
def beginning? (pattern : List PatternChar) (longest : Bool) (text : Text) : Option Nat :=
  let shown (n : Nat) : Bool := fits pattern (firstField (text.take n))
  if longest then (List.range (text.length + 1)).reverse.find? shown
  else (List.range ((firstField text).length + 1)).find? shown

/-- The shortest or longest ending of a text that a pattern matches: the number of
characters before it. Where fields are separated, an ending ends with its field. -/
def ending? (pattern : List PatternChar) (longest : Bool) (text : Text) : Option Nat :=
  let shown (n : Nat) : Bool := fits pattern (firstField (text.drop n))
  if longest then (List.range ((firstField text).length + 1)).find? shown
  else (List.range (text.length + 1)).reverse.find? shown

end Pattern

end QuineRelay.Shell
