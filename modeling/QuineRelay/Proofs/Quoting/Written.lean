import QuineRelay.Proofs.Results
import QuineRelay.Proofs.Text.Utf8
import QuineRelay.Quoting

/-!
# What is written

For each form of quoting, which payloads a source is written for, and what that source
looks like. A literal and its pieces need a payload of their alphabet, a print
statement may need a newline at its end, and plain text may not open a block of code. A
tape program is written for any bytes.
-/

namespace QuineRelay

theorem EscapeTable.firstForeign?_eq_none_iff {table : EscapeTable} (offset : Nat) {text : Text} :
    table.firstForeign? offset text = none ↔ ∀ c ∈ text, table.inAlphabet c = true := by
  induction text generalizing offset with
  | nil => simp [firstForeign?]
  | cons c text ih =>
      rw [firstForeign?, List.forall_mem_cons]
      split
      · rename_i hc
        rw [ih]
        exact (and_iff_right hc).symm
      · rename_i hc
        simp [hc]

theorem EscapeTable.checkAlphabet_eq_ok_iff {table : EscapeTable} {language text : Text} :
    table.checkAlphabet language text = .ok () ↔ ∀ c ∈ text, table.inAlphabet c = true := by
  rw [checkAlphabet, ← firstForeign?_eq_none_iff 0]
  split
  · rename_i hforeign
    simp [hforeign]
  · rename_i hforeign
    simp [hforeign]

theorem Ending.strip_eq_ok_iff {ending : Ending} {language payload body : Text} :
    ending.strip language payload = .ok body ↔ payload = body ++ ending.appended := by
  cases ending with
  | exact => simp [strip, appended]
  | newline =>
      rw [strip]
      split
      · rename_i rest hrest
        have hpayload := Text.beforeEnding?_eq_some_iff.1 hrest
        simp [appended, hpayload]
      · rename_i hnone
        simp only [reduceCtorEq, false_iff]
        intro hpayload
        cases hnone.symm.trans (Text.beforeEnding?_eq_some_iff.2 hpayload)

/-- A literal is written for the payloads that end as it needs and that keep to
its alphabet. -/
theorem Literal.write_eq_ok_iff {literal : Literal} {language payload source : Text} :
    literal.write language payload = .ok source ↔
      ∃ body, payload = body ++ literal.ending.appended ∧
        (∀ c ∈ body, literal.escapes.inAlphabet c = true) ∧
        source = literal.opening ++ literal.escapes.escape body ++ literal.closing := by
  constructor
  · intro h
    obtain ⟨body, hbody, h⟩ := bind_eq_ok_iff.1 h
    obtain ⟨_, halphabet, h⟩ := bind_eq_ok_iff.1 h
    exact ⟨body, Ending.strip_eq_ok_iff.1 hbody, EscapeTable.checkAlphabet_eq_ok_iff.1 halphabet,
      (Except.ok.inj h).symm⟩
  · rintro ⟨body, hbody, halphabet, rfl⟩
    refine bind_eq_ok_iff.2 ⟨body, Ending.strip_eq_ok_iff.2 hbody, ?_⟩
    exact bind_eq_ok_iff.2 ⟨(), EscapeTable.checkAlphabet_eq_ok_iff.2 halphabet, rfl⟩

/-- Pieces are written for the payloads that keep to their alphabet. -/
theorem Pieces.write_eq_ok_iff {pieces : Pieces} {language payload source : Text} :
    pieces.write language payload = .ok source ↔
      (∀ c ∈ payload, pieces.escapes.inAlphabet c = true) ∧
        source = pieces.opening
          ++ Text.join pieces.separator ((pieces.cut.pieces payload).map pieces.item)
          ++ pieces.closing := by
  constructor
  · intro h
    obtain ⟨_, halphabet, h⟩ := bind_eq_ok_iff.1 h
    exact ⟨EscapeTable.checkAlphabet_eq_ok_iff.1 halphabet, (Except.ok.inj h).symm⟩
  · rintro ⟨halphabet, rfl⟩
    exact bind_eq_ok_iff.2 ⟨(), EscapeTable.checkAlphabet_eq_ok_iff.2 halphabet, rfl⟩

theorem Quoting.asText_eq_ok_iff {language text : Text} {payload : Bytes} :
    asText language payload = .ok text ↔ payload = Utf8.encode text := by
  rw [asText, ← Utf8.decode_eq_ok_iff]
  split
  · rename_i text' htext
    simp [htext]
  · rename_i fault hfault
    simp [hfault]

namespace Verbatim

theorem earliest?_eq_none_iff {entries : List (Nat × Text)} :
    earliest? entries = none ↔ entries = [] := by
  cases entries with
  | nil => simp [earliest?]
  | cons entry rest =>
      simp only [earliest?, reduceCtorEq, iff_false]
      split
      · split <;> simp
      · simp

theorem occurrences_eq_nil_iff {verbatim : Verbatim} {text : Text} :
    verbatim.occurrences text = [] ↔
      ∀ sequence ∈ verbatim.forbidden, Text.holds sequence text = false := by
  simp [occurrences, Text.holds, List.filterMap_eq_nil_iff]

theorem opensCode_eq_false_iff {verbatim : Verbatim} {text : Text} :
    verbatim.opensCode text = false ↔
      verbatim.forbiddenOpenings.find? (·.isPrefixOf text) = none
        ∧ verbatim.occurrences text = [] := by
  rw [opensCode, Bool.or_eq_false_iff, List.any_eq_false, List.any_eq_false, List.find?_eq_none,
    occurrences_eq_nil_iff]
  simp

/-- A payload is its own source just when the language reads no code in it. -/
theorem write_eq_ok_iff {verbatim : Verbatim} {language payload source : Text} :
    verbatim.write language payload = .ok source ↔
      verbatim.opensCode payload = false ∧ source = payload := by
  rw [opensCode_eq_false_iff, ← earliest?_eq_none_iff, write]
  split
  · rename_i sequence hopening
    simp [hopening]
  · rename_i hopening
    split
    · rename_i index sequence hearliest
      simp [hearliest]
    · rename_i hearliest
      simp [hopening, hearliest, eq_comm]

end Verbatim

end QuineRelay
