import QuineRelay.Language.Standard
import QuineRelay.Proofs.Quoting.Cut
import QuineRelay.Proofs.Quoting.Readable
import QuineRelay.Proofs.Quoting.TapeForm
import QuineRelay.Proofs.Quoting.Written

/-!
# What is written is read back

For each form of quoting, reading a source that was written gives the payload.
Escape tables have to be readable and the fixed texts of a tape form free of
commands; plain text needs nothing. The quotings of all standard languages meet
these conditions.

Nothing is claimed about sources that were not written by the same quoting.
-/

namespace QuineRelay

/-- A literal with a readable table prints the payload it was written for. -/
theorem Literal.read_of_write {literal : Literal} (h : literal.escapes.Readable)
    {language payload source : Text} (hwrite : literal.write language payload = .ok source) :
    literal.read source = .ok payload := by
  obtain ⟨body, rfl, -, rfl⟩ := write_eq_ok_iff.1 hwrite
  have hbody : (Text.afterOpening? literal.opening
      (literal.opening ++ literal.escapes.escape body ++ literal.closing)).bind
        (Text.beforeEnding? literal.closing) = some (literal.escapes.escape body) :=
    Text.bind_beforeEnding?_eq_some_iff.2 rfl
  simp only [read, hbody, h.readFrom_escape_none]

namespace Pieces

/-- Pieces are readable when their table is and the closing of an item can be
told from every spelling. -/
structure Readable (pieces : Pieces) : Prop where
  escapes_readable : pieces.escapes.Readable
  itemClosing_isMark : pieces.escapes.IsMark pieces.itemClosing

instance (pieces : Pieces) : Decidable pieces.Readable :=
  decidable_of_iff (pieces.escapes.Readable ∧ pieces.escapes.IsMark pieces.itemClosing)
    ⟨fun h => ⟨h.1, h.2⟩, fun h => ⟨h.1, h.2⟩⟩

theorem afterSeparator?_append (pieces : Pieces) (source : Text) :
    pieces.afterSeparator? false (pieces.separator ++ source) = some source :=
  Text.afterOpening?_eq_some_iff.2 rfl

variable {pieces : Pieces} (h : pieces.Readable)

include h

theorem Readable.itemClosing_ne_nil : pieces.itemClosing ≠ [] := by
  intro hnil
  have := h.itemClosing_isMark.startsWithKey
  simp [EscapeTable.startsWithKey, hnil] at this

/-- Every item takes some of the source. -/
theorem Readable.isVoidItem_eq_false (first : Bool) : pieces.isVoidItem first = false := by
  have : pieces.itemClosing.isEmpty = false := by simpa using h.itemClosing_ne_nil
  simp [isVoidItem, this]

theorem Readable.item_ne_nil (piece : Text) : pieces.item piece ≠ [] := by
  simp [item, h.itemClosing_ne_nil]

/-- An item is read in front of any source. -/
theorem readItem_item (piece : Text) {first : Bool} {source rest : Text}
    (hsource : pieces.afterSeparator? first source = some (pieces.item piece ++ rest)) :
    pieces.readItem first source = .ok (piece, rest) := by
  have hbody : (some (pieces.item piece ++ rest)).bind (Text.afterOpening? pieces.itemOpening)
      = some (pieces.escapes.escape piece ++ (pieces.itemClosing ++ rest)) := by
    rw [item, Option.bind_some, Text.afterOpening?_eq_some_iff]
    simp
  have hclosing : Text.afterOpening? pieces.itemClosing (pieces.itemClosing ++ rest) = some rest :=
    Text.afterOpening?_eq_some_iff.2 rfl
  simp only [readItem, hsource, hbody,
    h.escapes_readable.readFrom_escape_some h.itemClosing_isMark, hclosing]

theorem readItems_item (piece : Text) {first : Bool} {source rest : Text}
    (hsource : pieces.afterSeparator? first source = some (pieces.item piece ++ rest))
    (done : Text) :
    pieces.readItems first done source
      = pieces.readItems false (piece.reverse ++ done) rest := by
  have hne : source.isEmpty = false := by
    rw [List.isEmpty_eq_false_iff]
    rintro rfl
    cases first with
    | false =>
        have := Text.afterOpening?_eq_some_iff.1 hsource
        simp [h.item_ne_nil] at this
    | true => simp [afterSeparator?, h.item_ne_nil] at hsource
  rw [readItems, hne]
  simp only [Bool.false_eq_true, if_false]
  split
  · rename_i fault hread
    cases hread.symm.trans (readItem_item h piece hsource)
  · rename_i text next hread
    have hitem := Except.ok.inj (hread.symm.trans (readItem_item h piece hsource))
    obtain ⟨rfl, rfl⟩ := Prod.mk.inj hitem
    rw [dif_neg]
    simp [h.isVoidItem_eq_false]

theorem readItems_items (list : List Text) (done : Text) :
    pieces.readItems false done (list.flatMap fun piece => pieces.separator ++ pieces.item piece)
      = .ok (done.reverse ++ list.flatten) := by
  induction list generalizing done with
  | nil => simp [readItems]
  | cons piece list ih =>
      rw [List.flatMap_cons, List.append_assoc,
        readItems_item h piece (pieces.afterSeparator?_append _), ih]
      simp

/-- The items of a program are read as the text they were cut from. -/
theorem readItems_join (list : List Text) :
    pieces.readItems true [] (Text.join pieces.separator (list.map pieces.item))
      = .ok list.flatten := by
  cases list with
  | nil => simp [readItems]
  | cons piece list =>
      rw [List.map_cons, Text.join_cons, List.flatMap_map, readItems_item h piece rfl,
        readItems_items h]
      simp

/-- Readable pieces print the payload they were written for. -/
theorem read_of_write {language payload source : Text}
    (hwrite : pieces.write language payload = .ok source) : pieces.read source = .ok payload := by
  obtain ⟨-, rfl⟩ := write_eq_ok_iff.1 hwrite
  rw [read, Text.bind_beforeEnding?_eq_some_iff.2 rfl]
  exact (readItems_join h _).trans (congrArg Except.ok (pieces.cut.flatten_pieces payload))

end Pieces

namespace Verbatim

theorem read_of_write {verbatim : Verbatim} {language payload source : Text}
    (hwrite : verbatim.write language payload = .ok source) :
    verbatim.read source = .ok payload := by
  obtain ⟨hcode, rfl⟩ := write_eq_ok_iff.1 hwrite
  rw [read, hcode]
  rfl

end Verbatim

namespace Quoting

/-- Which quotings can be read back from whatever they wrote. -/
def Readable : Quoting → Prop
  | .literal form => form.escapes.Readable
  | .pieces form => form.Readable
  | .tape form => form.Inert
  | .verbatim _ => True

instance : DecidablePred Readable
  | .literal form => inferInstanceAs (Decidable form.escapes.Readable)
  | .pieces form => inferInstanceAs (Decidable form.Readable)
  | .tape form => inferInstanceAs (Decidable form.Inert)
  | .verbatim _ => inferInstanceAs (Decidable True)

/-- A readable quoting prints the payload it was written for. -/
theorem read_of_write {quoting : Quoting} (h : quoting.Readable) {language source : Text}
    {payload : Bytes} (hwrite : quoting.write language payload = .ok source) :
    quoting.read source = .ok payload := by
  cases quoting with
  | literal form =>
      obtain ⟨text, htext, hwrite⟩ := bind_eq_ok_iff.1 hwrite
      rw [read, form.read_of_write h hwrite, asText_eq_ok_iff.1 htext]
      rfl
  | pieces form =>
      obtain ⟨text, htext, hwrite⟩ := bind_eq_ok_iff.1 hwrite
      rw [read, form.read_of_write h hwrite, asText_eq_ok_iff.1 htext]
      rfl
  | tape form =>
      obtain rfl := Except.ok.inj hwrite
      exact TapeForm.read_write h payload
  | verbatim form =>
      obtain ⟨text, htext, hwrite⟩ := bind_eq_ok_iff.1 hwrite
      rw [read, form.read_of_write hwrite, asText_eq_ok_iff.1 htext]
      rfl

theorem readable_of_mem_standard : ∀ language ∈ Language.standard, language.quoting.Readable := by
  decide

/-- A readable quoting prints every payload it was written for, text or not, and
the quotings of the standard languages are readable. -/
theorem readable_roundTrip :
    (∀ quoting : Quoting, quoting.Readable → ∀ (language source : Text) (payload : Bytes),
      quoting.write language payload = .ok source → quoting.read source = .ok payload) ∧
    ∀ language ∈ Language.standard, language.quoting.Readable ∧
      ∀ (source : Text) (payload : Bytes),
        language.quoting.write language.name payload = .ok source →
          language.quoting.read source = .ok payload := by
  constructor
  · intro quoting h language source payload hwrite
    exact read_of_write h hwrite
  · intro language hstandard
    have h := readable_of_mem_standard language hstandard
    exact ⟨h, fun source payload hwrite => read_of_write h hwrite⟩

/-- A quote next to the end of an item is read as a quote, since the spelling of
the quote begins like the end of the item without being its beginning. -/
theorem readable_roundTrip_pascal :
    Language.pascal.quoting.Readable ∧ Language.pascal ∈ Language.standard ∧
      Language.pascal.quoting.write "Pascal" (Utf8.encode "'#39'")
        = .ok "program QR;begin\nwrite(''#39'#39'#39'');\nend.\n" ∧
      Language.pascal.quoting.read "program QR;begin\nwrite(''#39'#39'#39'');\nend.\n"
        = .ok (Utf8.encode "'#39'") := by
  have hstandard : Language.pascal ∈ Language.standard := by decide
  have hwrite : Language.pascal.quoting.write "Pascal" (Utf8.encode "'#39'")
      = .ok "program QR;begin\nwrite(''#39'#39'#39'');\nend.\n" := by
    refine bind_eq_ok_iff.2 ⟨"'#39'", asText_eq_ok_iff.2 rfl, ?_⟩
    exact Pieces.write_eq_ok_iff.2 ⟨by decide, by decide⟩
  have hreadable := (readable_roundTrip.2 _ hstandard).1
  exact ⟨hreadable, hstandard, hwrite, readable_roundTrip.1 _ hreadable _ _ _ hwrite⟩

end Quoting

end QuineRelay
