/-!
# Text and bytes

A relay program is met in two forms: as text, when it is quoted or read, and as
bytes, when it is stored or compared. Both are lists, so every operation on
them is one of the list operations and every law about them is a list law.
String literals stand for the text they spell.

This module also holds the three searches the rest of the library needs:
cutting a known opening or ending off a text, locating a part, and replacing
every occurrence of a part.
-/

namespace QuineRelay

/-- A sequence of Unicode scalar values. -/
abbrev Text := List Char

/-- A sequence of bytes, as it stands in a file or on an output stream. -/
abbrev Bytes := List UInt8

/-- A string literal used where text is expected is the text it spells. -/
instance : Coe String Text := ⟨String.toList⟩

/-- A fact about all members of a list is decided member by member, even where
all values of the type could be tried. -/
instance (priority := high) decidableForallMem {α : Type} {p : α → Prop} [DecidablePred p]
    (list : List α) : Decidable (∀ a ∈ list, p a) :=
  List.decidableBAll p list

namespace Text

/-- What follows `opening`, when `text` begins with it. -/
def afterOpening? : (opening text : Text) → Option Text
  | [], text => some text
  | _ :: _, [] => none
  | a :: opening, b :: text => if a = b then afterOpening? opening text else none

/-- What precedes `ending`, when `text` finishes with it. -/
def beforeEnding? (ending text : Text) : Option Text :=
  (afterOpening? ending.reverse text.reverse).map List.reverse

theorem afterOpening?_eq_some_iff {opening text rest : Text} :
    afterOpening? opening text = some rest ↔ text = opening ++ rest := by
  fun_induction afterOpening? opening text with
  | case1 text => simp
  | case2 => simp
  | case3 a opening text ih => simp [ih]
  | case4 a opening b text hne => simp [Ne.symm hne]

theorem beforeEnding?_eq_some_iff {ending text rest : Text} :
    beforeEnding? ending text = some rest ↔ text = rest ++ ending := by
  simp only [beforeEnding?, Option.map_eq_some_iff, afterOpening?_eq_some_iff]
  constructor
  · rintro ⟨front, hfront, rfl⟩
    have := congrArg List.reverse hfront
    simpa using this
  · rintro rfl
    exact ⟨rest.reverse, by simp⟩

theorem bind_beforeEnding?_eq_some_iff {opening ending text rest : Text} :
    (afterOpening? opening text).bind (beforeEnding? ending) = some rest ↔
      text = opening ++ rest ++ ending := by
  simp [Option.bind_eq_some_iff, afterOpening?_eq_some_iff, beforeEnding?_eq_some_iff]

/-- Whether a character lies in one of several ranges. -/
def inRanges (ranges : List (Nat × Nat)) (c : Char) : Bool :=
  ranges.any fun range => range.1 ≤ c.toNat && c.toNat ≤ range.2

/-- Whether `part` stands at the very beginning of `text`. -/
def startsWith (part text : Text) : Bool :=
  part.isPrefixOf text

/-- Index of the first place at which `part` occurs, counting from `index`. -/
def positionFrom? (part : Text) (index : Nat) : Text → Option Nat
  | [] => if part.isEmpty then some index else none
  | c :: rest =>
    if part.isPrefixOf (c :: rest) then some index else positionFrom? part (index + 1) rest

/-- Index, in characters, of the first place at which `part` occurs. -/
def position? (part text : Text) : Option Nat :=
  positionFrom? part 0 text

/-- Whether `part` occurs anywhere in `text`. -/
def holds (part text : Text) : Bool :=
  (position? part text).isSome

/-- The text before and after the first occurrence of `part`. -/
def cutAt? (part text : Text) : Option (Text × Text) :=
  (position? part text).map fun index => (text.take index, text.drop (index + part.length))

/-- Replaces every occurrence of `part`, scanning from left to right; `done` is
what has been written so far, in reverse. An empty `part` replaces nothing. -/
def replaceFrom (part new : Text) (done : Text) (text : Text) : Text :=
  match text with
  | [] => done.reverse
  | c :: rest =>
    if !part.isEmpty && part.isPrefixOf (c :: rest) then
      replaceFrom part new (new.reverse ++ done) (rest.drop (part.length - 1))
    else
      replaceFrom part new (c :: done) rest
termination_by text.length
decreasing_by all_goals simp [List.length_drop]; try omega

/-- `text` with every occurrence of `part` replaced by `new`. -/
def replaceAll (part new text : Text) : Text :=
  replaceFrom part new [] text

/-- The parts of `text` between occurrences of `mark`; `part` is the one being
read and `done` holds the finished ones, both in reverse. -/
def splitFrom (mark : Char) (part : Text) (done : List Text) : Text → List Text
  | [] => (part.reverse :: done).reverse
  | c :: rest =>
    if c = mark then splitFrom mark [] (part.reverse :: done) rest
    else splitFrom mark (c :: part) done rest

/-- The parts of `text` between occurrences of `mark`, at least one of them. -/
def splitOn (mark : Char) (text : Text) : List Text :=
  splitFrom mark [] [] text

/-- `parts` with `separator` between any two neighbours. -/
def join (separator : Text) (parts : List Text) : Text :=
  (parts.intersperse separator).flatten

end Text

end QuineRelay
