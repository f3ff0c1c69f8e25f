import QuineRelay.Quoting.Escapes
import QuineRelay.Quoting.Fault
import QuineRelay.Text.Split

/-!
# A literal for each piece

The payload cut into pieces, each printed by a statement of its own. This suits
languages with a limit on the length of a literal, or with none that may hold a
newline.

The cuts are found once more by counting bytes (`Cut.ranges`), and the items are read
once more pass by pass (`Pieces.pass`), without a look at whether a pass gets anywhere.
-/

namespace QuineRelay

/-- Where a payload is cut. -/
inductive Cut where
  /-- After every newline. -/
  | lines
  /-- After every `width` characters; zero cuts after every newline. -/
  | chunks (width : UInt64)
  deriving DecidableEq, Repr

namespace Cut

/-- The cut after every `n` characters. Counts are machine words. -/
def width (n : Nat) : Cut :=
  .chunks (UInt64.ofNat n)

/-- The width of the pieces, where zero stands for lines. -/
def widthOrZero : Cut → Nat
  | .lines => 0
  | .chunks width => width.toNat

/-- The pieces of `width` characters of a text of which `count` characters have
been read; `piece` is the one being read and `done` holds the finished ones, both
in reverse. A piece is finished only when a character after it is met. -/
def piecesFrom (width count : Nat) (piece : Text) (done : List Text) : Text → List Text
  | [] => if piece.isEmpty then done.reverse else (piece.reverse :: done).reverse
  | c :: rest =>
    if 0 < count ∧ count % width = 0 then
      piecesFrom width (count + 1) [c] (piece.reverse :: done) rest
    else piecesFrom width (count + 1) (c :: piece) done rest

/-- The pieces of a text. -/
def pieces (cut : Cut) (text : Text) : List Text :=
  match cut with
  | .lines => Text.keptLines text
  | .chunks width =>
    if 0 < width then piecesFrom width.toNat 0 [] [] text else Text.keptLines text

/-- The ranges of bytes that pieces of `width` characters take. So far `count` characters have
been read, the piece being read begins at byte `start`, and the next character at `here`. -/
def chunkRangesFrom (width count start here : Nat) : Text → List (Nat × Nat)
  | [] => if start < here then [(start, here)] else []
  | c :: rest =>
    if 0 < count ∧ count % width = 0 then
      (start, here) :: chunkRangesFrom width (count + 1) here (here + Utf8.charSize c) rest
    else chunkRangesFrom width (count + 1) start (here + Utf8.charSize c) rest

/-- The ranges of bytes that lines take; the line being read begins at byte `start`, and the
next character at `here`. -/
def lineRangesFrom (start here : Nat) : Text → List (Nat × Nat)
  | [] => if start < here then [(start, here)] else []
  | c :: rest =>
    if c = '\n' then
      (start, here + Utf8.charSize c)
        :: lineRangesFrom (here + Utf8.charSize c) (here + Utf8.charSize c) rest
    else lineRangesFrom start (here + Utf8.charSize c) rest

/-- Where the pieces of a text begin and end in its bytes. The loops that find these places
look at no piece: they go by the sizes of the characters alone. -/
def ranges (cut : Cut) (text : Text) : List (Nat × Nat) :=
  match cut with
  | .lines => lineRangesFrom 0 0 text
  | .chunks width =>
    if 0 < width then chunkRangesFrom width.toNat 0 0 0 text else lineRangesFrom 0 0 text

end Cut

/-- A program with one item for each piece. -/
structure Pieces where
  opening : Text
  closing : Text
  itemOpening : Text
  itemClosing : Text
  /-- Stands between any two items. -/
  separator : Text
  escapes : EscapeTable
  cut : Cut
  deriving DecidableEq, Repr

namespace Pieces

/-- The statement that prints one piece. -/
def item (pieces : Pieces) (piece : Text) : Text :=
  pieces.itemOpening ++ pieces.escapes.escape piece ++ pieces.itemClosing

/-- The program that prints `payload`. -/
def write (pieces : Pieces) (language payload : Text) : Except GenerationError Text := do
  pieces.escapes.checkAlphabet language payload
  let items := (pieces.cut.pieces payload).map pieces.item
  return pieces.opening ++ Text.join pieces.separator items ++ pieces.closing

/-- The source after the separator that stands before every item but the first. -/
def afterSeparator? (pieces : Pieces) (first : Bool) (source : Text) : Option Text :=
  if first then some source else Text.afterOpening? pieces.separator source

/-- Whether an item that holds no text takes no source either. -/
def isVoidItem (pieces : Pieces) (first : Bool) : Bool :=
  pieces.itemOpening.isEmpty && pieces.itemClosing.isEmpty && (first || pieces.separator.isEmpty)

/-- The first item of `source`: its text, and the source after it. -/
def readItem (pieces : Pieces) (first : Bool) (source : Text) : Except ReadFault (Text × Text) :=
  match (pieces.afterSeparator? first source).bind (Text.afterOpening? pieces.itemOpening) with
  | none => .error .malformed
  | some body =>
    match pieces.escapes.readFrom (some pieces.itemClosing) [] body with
    | .malformed => .error .malformed
    | .endless => .error .endless
    | .finished text rest =>
      match Text.afterOpening? pieces.itemClosing rest with
      | none => .error .malformed
      | some next => .ok (text, next)

theorem length_of_afterSeparator? {pieces : Pieces} {first : Bool} {source rest : Text}
    (h : pieces.afterSeparator? first source = some rest) :
    source.length = (if first then 0 else pieces.separator.length) + rest.length := by
  cases first with
  | true =>
      obtain rfl := Option.some.inj h
      exact (Nat.zero_add _).symm
  | false =>
      rw [Text.afterOpening?_eq_some_iff.1 h]
      exact List.length_append

/-- An item that is read stands between its opening and its closing, after the separator. -/
theorem exists_of_readItem {pieces : Pieces} {first : Bool} {source text rest : Text}
    (h : pieces.readItem first source = .ok (text, rest)) :
    ∃ body, pieces.afterSeparator? first source = some (pieces.itemOpening ++ body) ∧
      pieces.escapes.readFrom (some pieces.itemClosing) [] body
        = .finished text (pieces.itemClosing ++ rest) := by
  unfold readItem at h
  split at h
  · cases h
  rename_i body hbody
  obtain ⟨afterSeparator, hseparator, hopening⟩ := Option.bind_eq_some_iff.1 hbody
  rw [Text.afterOpening?_eq_some_iff.1 hopening] at hseparator
  split at h
  · cases h
  · cases h
  rename_i read closed hread
  split at h
  · cases h
  rename_i next hclosing
  obtain ⟨rfl, rfl⟩ := Prod.mk.inj (Except.ok.inj h)
  rw [Text.afterOpening?_eq_some_iff.1 hclosing] at hread
  exact ⟨body, hseparator, hread⟩

/-- No item gives source back, and only a void item without text takes none. -/
theorem readItem_length {pieces : Pieces} {first : Bool} {source text rest : Text}
    (h : pieces.readItem first source = .ok (text, rest)) :
    rest.length ≤ source.length ∧
      (text ≠ [] ∨ pieces.isVoidItem first = false → rest.length < source.length) := by
  obtain ⟨body, hseparator, hread⟩ := exists_of_readItem h
  have hsource := length_of_afterSeparator? hseparator
  have hbody := EscapeTable.readFrom_length hread
  simp only [List.length_append, List.length_nil] at hsource hbody
  refine ⟨by omega, ?_⟩
  rintro (htext | hvoid)
  · have := List.length_pos_iff.2 htext
    omega
  · simp only [isVoidItem, Bool.and_eq_false_iff, Bool.or_eq_false_iff,
      List.isEmpty_eq_false_iff, ← List.length_pos_iff] at hvoid
    rcases hvoid with (hopening | hclosing) | ⟨rfl, hseparator⟩
    · omega
    · omega
    · simp only [Bool.false_eq_true, if_false] at hsource
      omega

/-- Reads items until the source is used up; `done` is the text read so far, in
reverse. A void item is read at most once, as the first one: with a separator the
next items are not void, and without one nothing would change any more. -/
def readItems (pieces : Pieces) (first : Bool) (done source : Text) : Except ReadFault Text :=
  if source.isEmpty then .ok done.reverse
  else
    match _h : pieces.readItem first source with
    | .error fault => .error fault
    | .ok (text, rest) =>
      if _hv : text = [] ∧ pieces.isVoidItem first = true ∧ first = false then .error .endless
      else readItems pieces false (text.reverse ++ done) rest
termination_by (source.length, first.toNat)
decreasing_by
  have hlength := readItem_length _h
  by_cases htext : text ≠ [] ∨ pieces.isVoidItem first = false
  · exact Prod.Lex.left _ _ (hlength.2 htext)
  · rcases Nat.lt_or_eq_of_le hlength.1 with hlt | heq
    · exact Prod.Lex.left _ _ hlt
    · rw [heq]
      cases first with
      | false => simp_all
      | true => exact Prod.Lex.right _ (by decide)

/-- What the program `source` prints. -/
def read (pieces : Pieces) (source : Text) : Except ReadFault Text :=
  match (Text.afterOpening? pieces.opening source).bind (Text.beforeEnding? pieces.closing) with
  | none => .error .malformed
  | some items => pieces.readItems true [] items

/-! ## Pass by pass -/

/-- Where the reading of items stands. -/
inductive Place where
  /-- Between two items, or before the first one; `progress` is that of the whole. -/
  | between (first : Bool) (progress : Progress)
  /-- In an item, after the text `done`, which is in reverse; `progress` is that of the item. -/
  | inside (done : Text) (progress : Progress)

/-- A pass of reading items: on to the inside of an item, over a spelling or a character of it,
or out of it. -/
def pass (pieces : Pieces) : Place → Pass Place (Except ReadFault Text)
  | .between first ⟨done, source⟩ =>
    if source.isEmpty then .done (.ok done.reverse)
    else
      match (pieces.afterSeparator? first source).bind (Text.afterOpening? pieces.itemOpening) with
      | none => .done (.error .malformed)
      | some body => .again (.inside done ⟨[], body⟩)
  | .inside done progress =>
    match pieces.escapes.pass (some pieces.itemClosing) progress with
    | .again next => .again (.inside done next)
    | .done none => .done (.error .malformed)
    | .done (some (text, rest)) =>
      match Text.afterOpening? pieces.itemClosing rest with
      | none => .done (.error .malformed)
      | some source => .again (.between false ⟨text.reverse ++ done, source⟩)

/-- What a source prints, if reading it ends within so many passes. -/
def readWithin (pieces : Pieces) (passes : Nat) (source : Text) :
    Option (Except ReadFault Text) :=
  match (Text.afterOpening? pieces.opening source).bind (Text.beforeEnding? pieces.closing) with
  | none => some (.error .malformed)
  | some items => Pass.within pieces.pass passes (.between true ⟨[], items⟩)

end Pieces

end QuineRelay
