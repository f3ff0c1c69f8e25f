import Mathlib.Data.List.Infix
import QuineRelay.Language.Standard
import QuineRelay.Proofs.Quoting.Cut
import QuineRelay.Proofs.Quoting.TapeForm
import QuineRelay.Proofs.Quoting.Written
import QuineRelay.Proofs.Text.Neighbours

/-!
# Texts that every standard language can hold

Three things can keep a language from holding a text: a character that its literals
have no spelling for, a newline that its print statement appends, and a mark that opens
a block of code. A portable text has none of them.

What the standard languages write for a portable text is portable again, so they may
follow each other in any order. A code mark could arise where two texts meet: at the
ends of a literal, between two items, or between a spelling and the character after it.
The fixed texts of a quoting rule this out when they are harmless, which one glance at
each of them decides.
-/

namespace QuineRelay

/-! ## Portable texts -/

/-- The characters that open a block of code. -/
def codeMark : Char × Char := ('<', '?')

/-- A text that any standard language can hold. -/
structure Portable (text : Text) : Prop where
  plain : ∀ c ∈ text, EscapeTable.isPlain c = true
  ends : ['\n'] <:+ text
  no_code : ¬ ("<?" : Text) <:+: text
  no_interpreter : ¬ ("#!" : Text) <+: text

instance (text : Text) : Decidable (Portable text) :=
  decidable_of_iff ((∀ c ∈ text, EscapeTable.isPlain c = true) ∧ ['\n'] <:+ text ∧
      ¬ ("<?" : Text) <:+: text ∧ ¬ ("#!" : Text) <+: text)
    ⟨fun h => ⟨h.1, h.2.1, h.2.2.1, h.2.2.2⟩, fun h => ⟨h.1, h.2, h.3, h.4⟩⟩

/-- Plain text without a code mark. -/
structure Clean (text : Text) : Prop where
  plain : ∀ c ∈ text, EscapeTable.isPlain c = true
  isChain : text.IsChain (Text.Apart codeMark)

/-- Plain text that takes part in no code mark, whatever stands around it. -/
structure Harmless (text : Text) : Prop where
  plain : ∀ c ∈ text, EscapeTable.isPlain c = true
  isSealed : Text.Sealed codeMark text

instance (text : Text) : Decidable (Harmless text) :=
  decidable_of_iff ((∀ c ∈ text, EscapeTable.isPlain c = true) ∧ Text.Sealed codeMark text)
    ⟨fun h => ⟨h.1, h.2⟩, fun h => ⟨h.1, h.2⟩⟩

/-- Two harmless texts that can stand around anything in a portable text. The text
before begins as no interpreter line does, and the text after ends with a newline. -/
structure IsFrame (front back : Text) : Prop where
  front_harmless : Harmless front
  back_harmless : Harmless back
  begins : ¬ ("#!" : Text) <+: front ∧ ¬ front <+: ("#!" : Text)
  ends : ['\n'] <:+ back

instance (front back : Text) : Decidable (IsFrame front back) :=
  decidable_of_iff (Harmless front ∧ Harmless back ∧
      (¬ ("#!" : Text) <+: front ∧ ¬ front <+: ("#!" : Text)) ∧ ['\n'] <:+ back)
    ⟨fun h => ⟨h.1, h.2.1, h.2.2.1, h.2.2.2⟩, fun h => ⟨h.1, h.2, h.3, h.4⟩⟩

variable {text front back : Text}

theorem Portable.clean (h : Portable text) : Clean text :=
  ⟨h.plain, Text.isChain_apart_iff.2 h.no_code⟩

theorem Portable.ne_nil (h : Portable text) : text ≠ [] := by
  rintro rfl
  exact absurd h.ends (by decide)

theorem Clean.of_isInfix (h : Clean text) {part : Text} (hpart : part <:+: text) : Clean part :=
  ⟨fun c hc => h.plain c (hpart.subset hc), h.isChain.infix hpart⟩

/-- A clean text in a frame is portable. -/
theorem IsFrame.portable (h : IsFrame front back) (htext : Clean text) :
    Portable (front ++ text ++ back) where
  plain := by
    simp only [List.forall_mem_append]
    exact ⟨⟨h.front_harmless.plain, htext.plain⟩, h.back_harmless.plain⟩
  ends := h.ends.trans (List.suffix_append _ _)
  no_code := Text.isChain_apart_iff.1 <|
    Text.Sealed.append_isChain (h.front_harmless.isSealed.isChain_append htext.isChain)
      h.back_harmless.isSealed
  no_interpreter hbegins := by
    have hfront : front <+: front ++ text ++ back :=
      (List.prefix_append front text).trans (List.prefix_append _ back)
    rcases List.prefix_or_prefix_of_prefix hbegins hfront with hle | hle
    · exact h.begins.1 hle
    · exact h.begins.2 hle

/-- Two clean texts with a harmless one between them make a clean text. -/
theorem Harmless.clean_between (h : Harmless text) (hne : text ≠ []) (hfront : Clean front)
    (hback : Clean back) : Clean (front ++ text ++ back) where
  plain := by
    simp only [List.forall_mem_append]
    exact ⟨⟨hfront.plain, h.plain⟩, hback.plain⟩
  isChain := by
    refine (Text.Sealed.append_isChain hfront.isChain h.isSealed).append hback.isChain
      fun a ha _ _ hfirst => ?_
    rw [List.getLast?_append_of_ne_nil _ hne] at ha
    exact absurd (hfirst ▸ ha) h.isSealed.last

/-! ## Escapes -/

namespace EscapeTable

/-- Whether every spelling of a table is harmless, and none is empty. -/
def HasHarmlessSpellings (table : EscapeTable) : Prop :=
  ∀ entry ∈ table, entry.2 ≠ [] ∧ Harmless entry.2

instance (table : EscapeTable) : Decidable table.HasHarmlessSpellings :=
  inferInstanceAs (Decidable (∀ entry ∈ table, entry.2 ≠ [] ∧ Harmless entry.2))

theorem inAlphabet_of_clean (table : EscapeTable) (h : Clean text) :
    ∀ c ∈ text, table.inAlphabet c = true := fun c hc => by
  rw [inAlphabet, h.plain c hc, Bool.true_or]

/-- Escaping keeps a text clean. -/
theorem HasHarmlessSpellings.clean_escape {table : EscapeTable} (h : table.HasHarmlessSpellings)
    (htext : Clean text) : Clean (table.escape text) := by
  have hwritten (c : Char) : table.escapeChar c = [c] ∨
      table.escapeChar c ≠ [] ∧ Harmless (table.escapeChar c) := by
    cases hc : table.lookup c with
    | none => exact .inl (by rw [escapeChar, hc]; rfl)
    | some spelling =>
        have hchar : table.escapeChar c = spelling := by rw [escapeChar, hc]; rfl
        exact .inr (hchar ▸ h _ (mem_of_lookup hc))
  constructor
  · intro a ha
    obtain ⟨c, hc, ha⟩ := List.mem_flatMap.1 ha
    rcases hwritten c with heq | ⟨-, hharmless⟩
    · rw [heq, List.mem_singleton] at ha
      exact ha ▸ htext.plain c hc
    · exact hharmless.plain a ha
  · refine Text.isChain_flatMap (fun c _ => ?_) htext.isChain
    exact (hwritten c).imp_right fun hspelling => ⟨hspelling.1, hspelling.2.isSealed⟩

end EscapeTable

/-! ## What is written for a portable payload -/

namespace Literal

/-- A literal in a frame, with harmless spellings. -/
structure KeepsPortable (literal : Literal) : Prop where
  frame : IsFrame literal.opening literal.closing
  spellings : literal.escapes.HasHarmlessSpellings

instance (literal : Literal) : Decidable literal.KeepsPortable :=
  decidable_of_iff (IsFrame literal.opening literal.closing ∧ literal.escapes.HasHarmlessSpellings)
    ⟨fun h => ⟨h.1, h.2⟩, fun h => ⟨h.1, h.2⟩⟩

theorem write_portable {literal : Literal} (h : literal.KeepsPortable) (language : Text)
    {payload : Text} (hpayload : Portable payload) :
    ∃ source, literal.write language payload = .ok source ∧ Portable source := by
  obtain ⟨body, hbody⟩ : ∃ body, payload = body ++ literal.ending.appended := by
    cases literal.ending with
    | exact => exact ⟨payload, (List.append_nil payload).symm⟩
    | newline => exact hpayload.ends.imp fun _ => Eq.symm
  have hclean : Clean body := hpayload.clean.of_isInfix (hbody ▸ (List.prefix_append _ _).isInfix)
  refine ⟨_, write_eq_ok_iff.2 ⟨body, hbody, literal.escapes.inAlphabet_of_clean hclean, rfl⟩, ?_⟩
  exact h.frame.portable (h.spellings.clean_escape hclean)

end Literal

namespace Pieces

/-- Items in a frame, with harmless spellings and harmless text between them. -/
structure KeepsPortable (pieces : Pieces) : Prop where
  frame : IsFrame (pieces.opening ++ pieces.itemOpening) (pieces.itemClosing ++ pieces.closing)
  seam_harmless : Harmless (pieces.itemClosing ++ pieces.separator ++ pieces.itemOpening)
  seam_ne_nil : pieces.itemClosing ++ pieces.separator ++ pieces.itemOpening ≠ []
  spellings : pieces.escapes.HasHarmlessSpellings

instance (pieces : Pieces) : Decidable pieces.KeepsPortable :=
  decidable_of_iff
    (IsFrame (pieces.opening ++ pieces.itemOpening) (pieces.itemClosing ++ pieces.closing) ∧
      Harmless (pieces.itemClosing ++ pieces.separator ++ pieces.itemOpening) ∧
      pieces.itemClosing ++ pieces.separator ++ pieces.itemOpening ≠ [] ∧
      pieces.escapes.HasHarmlessSpellings)
    ⟨fun h => ⟨h.1, h.2.1, h.2.2.1, h.2.2.2⟩, fun h => ⟨h.1, h.2, h.3, h.4⟩⟩

/-- What stands between the opening of the first item and the closing of the last one
is clean. -/
theorem KeepsPortable.exists_join_items {pieces : Pieces} (h : pieces.KeepsPortable) (first : Text)
    (list : List Text) (hclean : ∀ piece ∈ first :: list, Clean piece) :
    ∃ middle, Clean middle ∧ Text.join pieces.separator ((first :: list).map pieces.item)
      = pieces.itemOpening ++ middle ++ pieces.itemClosing := by
  induction list generalizing first with
  | nil =>
      obtain ⟨hfirst, -⟩ := List.forall_mem_cons.1 hclean
      exact ⟨_, h.spellings.clean_escape hfirst, by simp [Text.join_cons, item]⟩
  | cons second list ih =>
      obtain ⟨hfirst, hlist⟩ := List.forall_mem_cons.1 hclean
      obtain ⟨middle, hmiddle, hjoin⟩ := ih second hlist
      have hstep : Text.join pieces.separator ((first :: second :: list).map pieces.item)
          = pieces.item first ++ (pieces.separator
            ++ Text.join pieces.separator ((second :: list).map pieces.item)) := by
        simp only [List.map_cons, Text.join_cons, List.flatMap_cons, List.append_assoc]
      refine ⟨_, h.seam_harmless.clean_between h.seam_ne_nil (h.spellings.clean_escape hfirst)
        hmiddle, ?_⟩
      rw [hstep, hjoin, item]
      simp only [List.append_assoc]

theorem write_portable {pieces : Pieces} (h : pieces.KeepsPortable) (language : Text)
    {payload : Text} (hpayload : Portable payload) :
    ∃ source, pieces.write language payload = .ok source ∧ Portable source := by
  have hflatten : (pieces.cut.pieces payload).flatten = payload :=
    pieces.cut.flatten_pieces payload
  have hclean : ∀ piece ∈ pieces.cut.pieces payload, Clean piece := fun piece hpiece =>
    hpayload.clean.of_isInfix (hflatten ▸ List.infix_of_mem_flatten hpiece)
  have halphabet := pieces.escapes.inAlphabet_of_clean hpayload.clean
  refine ⟨_, write_eq_ok_iff.2 ⟨halphabet, rfl⟩, ?_⟩
  cases hlist : pieces.cut.pieces payload with
  | nil =>
      rw [hlist] at hflatten
      exact absurd hflatten.symm hpayload.ne_nil
  | cons first list =>
      obtain ⟨middle, hmiddle, hjoin⟩ := h.exists_join_items first list (hlist ▸ hclean)
      have hsource := h.frame.portable hmiddle
      rw [hjoin]
      simpa only [List.append_assoc] using hsource

end Pieces

namespace TapeForm

/-- Fixed texts of a tape program that hold neither a code mark nor an interpreter
line, nor any part of one. -/
structure KeepsPortable (form : TapeForm) : Prop where
  harmless : ∀ c ∈ form.opening ++ form.closing,
    EscapeTable.isPlain c = true ∧ c ≠ codeMark.1 ∧ c ≠ '#'
  ends : ['\n'] <:+ form.closing

instance (form : TapeForm) : Decidable form.KeepsPortable :=
  decidable_of_iff ((∀ c ∈ form.opening ++ form.closing,
      EscapeTable.isPlain c = true ∧ c ≠ codeMark.1 ∧ c ≠ '#') ∧ ['\n'] <:+ form.closing)
    ⟨fun h => ⟨h.1, h.2⟩, fun h => ⟨h.1, h.2⟩⟩

/-- A tape program is portable whatever it prints. -/
theorem write_portable {form : TapeForm} (h : form.KeepsPortable) (payload : Bytes) :
    Portable (form.write payload) := by
  have hall : ∀ c ∈ form.write payload,
      EscapeTable.isPlain c = true ∧ c ≠ codeMark.1 ∧ c ≠ '#' := by
    have hstrokes : ∀ c ∈ ['+', '-', '.'],
        EscapeTable.isPlain c = true ∧ c ≠ codeMark.1 ∧ c ≠ '#' := by
      decide
    obtain ⟨hopening, hclosing⟩ := List.forall_mem_append.1 h.harmless
    simp only [write, List.forall_mem_append]
    exact ⟨⟨hopening, fun c hc => hstrokes c (mem_strides c hc)⟩, hclosing⟩
  refine ⟨fun c hc => (hall c hc).1, h.ends.trans (List.suffix_append _ _), fun hcode => ?_,
    fun hbegins => ?_⟩
  · exact (hall codeMark.1 (hcode.subset (by decide))).2.1 rfl
  · exact (hall '#' (hbegins.subset (by decide))).2.2 rfl

end TapeForm

namespace Verbatim

/-- Whether a language refuses no more than what no portable text holds. -/
structure KeepsPortable (verbatim : Verbatim) : Prop where
  forbidden : ∀ sequence ∈ verbatim.forbidden, ("<?" : Text) <:+: sequence
  openings : ∀ sequence ∈ verbatim.forbiddenOpenings, ("#!" : Text) <+: sequence

instance (verbatim : Verbatim) : Decidable verbatim.KeepsPortable :=
  decidable_of_iff ((∀ sequence ∈ verbatim.forbidden, ("<?" : Text) <:+: sequence) ∧
      ∀ sequence ∈ verbatim.forbiddenOpenings, ("#!" : Text) <+: sequence)
    ⟨fun h => ⟨h.1, h.2⟩, fun h => ⟨h.1, h.2⟩⟩

theorem write_portable {verbatim : Verbatim} (h : verbatim.KeepsPortable) (language : Text)
    {payload : Text} (hpayload : Portable payload) :
    ∃ source, verbatim.write language payload = .ok source ∧ Portable source := by
  refine ⟨payload, write_eq_ok_iff.2 ⟨?_, rfl⟩, hpayload⟩
  rw [opensCode, Bool.or_eq_false_iff, List.any_eq_false, List.any_eq_false]
  constructor
  · intro sequence hsequence hbegins
    exact hpayload.no_interpreter
      ((h.openings sequence hsequence).trans (List.isPrefixOf_iff_prefix.1 hbegins))
  · intro sequence hsequence hholds
    exact hpayload.no_code ((h.forbidden sequence hsequence).trans (Text.holds_iff.1 hholds))

end Verbatim

namespace Quoting

/-- Which quotings write portable text for every portable payload. -/
def KeepsPortable : Quoting → Prop
  | .literal form => form.KeepsPortable
  | .pieces form => form.KeepsPortable
  | .tape form => form.KeepsPortable
  | .verbatim form => form.KeepsPortable

instance : DecidablePred KeepsPortable
  | .literal form => inferInstanceAs (Decidable form.KeepsPortable)
  | .pieces form => inferInstanceAs (Decidable form.KeepsPortable)
  | .tape form => inferInstanceAs (Decidable form.KeepsPortable)
  | .verbatim form => inferInstanceAs (Decidable form.KeepsPortable)

theorem write_portable {quoting : Quoting} (h : quoting.KeepsPortable) (language : Text)
    {payload : Text} (hpayload : Portable payload) :
    ∃ source, quoting.write language (Utf8.encode payload) = .ok source ∧ Portable source := by
  have htext : asText language (Utf8.encode payload) = .ok payload := asText_eq_ok_iff.2 rfl
  cases quoting with
  | literal form =>
      obtain ⟨source, hwrite, hsource⟩ := form.write_portable h language hpayload
      exact ⟨source, bind_eq_ok_iff.2 ⟨payload, htext, hwrite⟩, hsource⟩
  | pieces form =>
      obtain ⟨source, hwrite, hsource⟩ := form.write_portable h language hpayload
      exact ⟨source, bind_eq_ok_iff.2 ⟨payload, htext, hwrite⟩, hsource⟩
  | tape form => exact ⟨_, rfl, form.write_portable h _⟩
  | verbatim form =>
      obtain ⟨source, hwrite, hsource⟩ := form.write_portable h language hpayload
      exact ⟨source, bind_eq_ok_iff.2 ⟨payload, htext, hwrite⟩, hsource⟩

end Quoting

/-! ## The standard languages -/

/-- Bytes that are the encoding of a portable text. -/
def IsPortable (bytes : Bytes) : Prop :=
  ∃ text, Utf8.decode bytes = .ok text ∧ Portable text

theorem IsPortable.ne_nil {bytes : Bytes} (h : IsPortable bytes) : bytes ≠ [] := by
  obtain ⟨text, htext, hportable⟩ := h
  rintro rfl
  have hnil : Utf8.encode text = Utf8.encode [] := (Utf8.decode_eq_ok_iff.1 htext).symm
  exact hportable.ne_nil (Utf8.encode_injective hnil)

theorem Language.keepsPortable_of_mem_standard :
    ∀ language ∈ Language.standard, language.quoting.KeepsPortable := by
  decide +kernel

theorem Language.generate_portable {language : Language} (h : language.quoting.KeepsPortable)
    {payload : Bytes} (hpayload : IsPortable payload) :
    ∃ source, language.generate payload = .ok source ∧ IsPortable source := by
  obtain ⟨text, htext, hportable⟩ := hpayload
  obtain rfl := Utf8.decode_eq_ok_iff.1 htext
  obtain ⟨source, hwrite, hsource⟩ := language.quoting.write_portable h language.name hportable
  exact ⟨_, map_eq_ok_iff.2 ⟨source, hwrite, rfl⟩, source, Utf8.decode_encode source, hsource⟩

end QuineRelay
