import QuineRelay.GenerationError
import QuineRelay.Pass
import QuineRelay.Text.Utf8

/-!
# Escape tables

A literal holds most characters as they are and spells some differently. The
characters with a spelling and the plain ones together are the alphabet of the
literal; a text with any other character cannot be quoted.

`escape` writes a text, `readFrom` reads it back: at each place the longest
spelling that fits wins, before the end mark and before any plain character, and
a character that has a spelling may not stand for itself. An empty spelling fits
without being read, so reading would never move on; that outcome is kept apart
from malformed text.

`pass` is one pass of the same reading without a look at whether it gets anywhere, so
a loop of passes need not end.
-/

namespace QuineRelay

/-- How far reading has come: the text read so far, in reverse, and the source that is left. -/
structure Progress where
  done : Text
  source : Text

/-- Characters that a literal spells differently, with their spellings. Of two
entries for one character the first counts when writing. -/
abbrev EscapeTable := List (Char × Text)

namespace EscapeTable

/-- Whether a literal holds a character without escaping it: newline, space and
printable ASCII. -/
def isPlain (c : Char) : Bool :=
  c == '\n' || (0x20 ≤ c.toNat && c.toNat ≤ 0x7E)

/-- Whether a literal with this table can hold a character. -/
def inAlphabet (table : EscapeTable) (c : Char) : Bool :=
  isPlain c || (table.lookup c).isSome

/-- Byte offset and value of the first character outside the alphabet; the text
starts at `offset`. -/
def firstForeign? (table : EscapeTable) (offset : Nat) : Text → Option (Nat × Char)
  | [] => none
  | c :: rest =>
    if table.inAlphabet c then firstForeign? table (offset + Utf8.charSize c) rest
    else some (offset, c)

/-- Refuses a text with a character outside the alphabet, naming its first byte. -/
def checkAlphabet (table : EscapeTable) (language text : Text) : Except GenerationError Unit :=
  match table.firstForeign? 0 text with
  | some (offset, c) => .error (.unrepresentable language offset ((Utf8.encodeChar c).headD 0))
  | none => .ok ()

/-- One character as the literal holds it. -/
def escapeChar (table : EscapeTable) (c : Char) : Text :=
  (table.lookup c).getD [c]

/-- A text as the literal holds it. -/
def escape (table : EscapeTable) (text : Text) : Text :=
  text.flatMap table.escapeChar

/-- The entry whose spelling stands at the front of `text`. The longest spelling
wins, and of equal ones the last in the table. -/
def spellingAt? (text : Text) : EscapeTable → Option (Char × Text)
  | [] => none
  | entry :: table =>
    match spellingAt? text table with
    | some best =>
      if entry.2.isPrefixOf text && best.2.length < entry.2.length then some entry else some best
    | none => if entry.2.isPrefixOf text then some entry else none

theorem isPrefixOf_of_spellingAt? {text : Text} {table : EscapeTable} {entry : Char × Text}
    (h : spellingAt? text table = some entry) : entry.2.isPrefixOf text := by
  induction table generalizing entry with
  | nil => simp [spellingAt?] at h
  | cons first table ih =>
      rw [spellingAt?] at h
      split at h
      · rename_i best hbest
        split at h
        · rename_i hfirst
          rw [← Option.some.inj h]
          exact (Bool.and_eq_true _ _ ▸ hfirst).1
        · rw [← Option.some.inj h]
          exact ih hbest
      · split at h
        · rename_i hfirst
          rw [← Option.some.inj h]
          exact hfirst
        · simp at h

/-- How reading the inside of a literal ends. -/
inductive Reading where
  /-- The text that was read, and the source from the end mark on. -/
  | finished (text rest : Text)
  /-- A character that needs a spelling stands for itself, or the end mark is
  missing. -/
  | malformed
  /-- An empty spelling is the longest that fits. -/
  | endless
  deriving DecidableEq

/-- Reads a literal up to `stop?`, or to the end of the source when there is no
such mark. `done` is the text read so far, in reverse. -/
def readFrom (table : EscapeTable) (stop? : Option Text) (done : Text) (source : Text) : Reading :=
  match _h : spellingAt? source table with
  | some (c, spelling) =>
    if _hs : spelling = [] then .endless
    else readFrom table stop? (c :: done) (source.drop spelling.length)
  | none =>
    if stop?.any (·.isPrefixOf source) then .finished done.reverse source
    else
      match source with
      | [] => if stop?.isNone then .finished done.reverse [] else .malformed
      | c :: rest =>
        if (table.lookup c).isSome then .malformed else readFrom table stop? (c :: done) rest
termination_by source.length
decreasing_by
  · have hfit := isPrefixOf_of_spellingAt? _h
    have hle : spelling.length ≤ source.length := (List.isPrefixOf_iff_prefix.1 hfit).length_le
    have hpos : 0 < spelling.length := List.length_pos_iff.2 _hs
    simp only [List.length_drop]
    omega
  · simp

/-- Every character that is read takes at least one character of the source. -/
theorem readFrom_length {table : EscapeTable} {stop? : Option Text} {done source text rest : Text}
    (h : readFrom table stop? done source = .finished text rest) :
    rest.length + text.length ≤ source.length + done.length := by
  fun_induction readFrom table stop? done source with
  | case1 => simp at h
  | case2 done source c spelling hspelling hne ih =>
      have hfit := isPrefixOf_of_spellingAt? hspelling
      have hle : spelling.length ≤ source.length := (List.isPrefixOf_iff_prefix.1 hfit).length_le
      have hpos : 0 < spelling.length := List.length_pos_iff.2 hne
      have := ih h
      simp only [List.length_drop, List.length_cons] at this
      omega
  | case3 =>
      obtain ⟨rfl, rfl⟩ := Reading.finished.inj h
      simp only [List.length_reverse]
      omega
  | case4 =>
      obtain ⟨rfl, rfl⟩ := Reading.finished.inj h
      simp
  | case5 => simp at h
  | case6 => simp at h
  | case7 done hspelling hstop c rest hc ih =>
      have := ih h
      simp only [List.length_cons] at this ⊢
      omega

/-- A pass over the inside of a literal. The loop returns the text that was read and the source
from the end mark on, or nothing where the source is malformed. -/
def pass (table : EscapeTable) (stop? : Option Text) :
    Progress → Pass Progress (Option (Text × Text))
  | ⟨done, source⟩ =>
    match spellingAt? source table with
    | some (c, spelling) => .again ⟨c :: done, source.drop spelling.length⟩
    | none =>
      if stop?.any (·.isPrefixOf source) then .done (some (done.reverse, source))
      else
        match source with
        | [] => .done (if stop?.isNone then some (done.reverse, []) else none)
        | c :: rest => if (table.lookup c).isSome then .done none else .again ⟨c :: done, rest⟩

end EscapeTable

end QuineRelay
