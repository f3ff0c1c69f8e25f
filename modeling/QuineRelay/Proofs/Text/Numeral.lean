import QuineRelay.Text.Numeral

/-!
# Numerals are read back

The digits of counts and bytes, with the characters they are made of. Decimal
numerals are never empty, so a count can be told from a missing one.
-/

namespace QuineRelay.Text

theorem isSome_hexDigit?_iff {c : Char} :
    (hexDigit? c).isSome ↔
      0x30 ≤ c.toNat ∧ c.toNat ≤ 0x39 ∨ 0x61 ≤ c.toNat ∧ c.toNat ≤ 0x66 ∨
        0x41 ≤ c.toNat ∧ c.toNat ≤ 0x46 := by
  have hval : c.val.toNat = c.toNat := rfl
  simp only [hexDigit?, Char.isDigit, Char.le_def, ge_iff_le, UInt32.le_iff_toNat_le,
    Bool.and_eq_true, decide_eq_true_eq, hval]
  by_cases hdigit : 0x30 ≤ c.toNat ∧ c.toNat ≤ 0x39
  · simp [hdigit]
  · by_cases hlower : 0x61 ≤ c.toNat ∧ c.toNat ≤ 0x66
    · simp [hdigit, hlower]
    · simp [hdigit, hlower]

theorem isDigit_of_mem_decimal {n : Nat} {c : Char} (h : c ∈ decimal n) : c.isDigit :=
  Nat.isDigit_of_mem_toDigits (by decide) (by decide) h

theorem decimal_ne_nil (n : Nat) : decimal n ≠ [] :=
  Nat.toDigits_ne_nil

/-- A count is read back from its decimal digits. -/
theorem word?_decimal {n : Nat} (h : n < wordLimit) : word? (decimal n) = some n := by
  have hdigits : digits? (decimal n) = some n := by
    rw [digits?, if_neg, decimal, Nat.ofDigitChars_ten_toDigits]
    simp only [Bool.or_eq_true, List.isEmpty_iff, Bool.not_eq_true', List.all_eq_false, not_or,
      not_exists]
    exact ⟨decimal_ne_nil n, fun c hc => hc.2 (isDigit_of_mem_decimal hc.1)⟩
  unfold word?
  split
  · rename_i rest hplus
    have := isDigit_of_mem_decimal (n := n) (hplus ▸ List.mem_cons_self)
    simp at this
  · simpa [hdigits] using h

/-- ASCII digits that spell a machine word. -/
def IsWordDigits (digits : Text) : Prop :=
  digits ≠ [] ∧ (∀ c ∈ digits, c.isDigit = true) ∧ Nat.ofDigitChars 10 digits 0 < wordLimit

/-- Such digits, with or without a plus sign before them. -/
def IsCount (text : Text) : Prop :=
  ∃ digits, IsWordDigits digits ∧ (text = digits ∨ text = '+' :: digits)

theorem isSome_digits?_iff {digits : Text} :
    ((digits? digits).filter (· < wordLimit)).isSome = true ↔ IsWordDigits digits := by
  rw [digits?, IsWordDigits]
  split
  · rename_i hbad
    constructor
    · intro hnone
      cases hnone
    · rintro ⟨hne, hdigits, -⟩
      rw [List.all_eq_true.2 hdigits, Bool.not_true, Bool.or_false, List.isEmpty_iff] at hbad
      exact absurd hbad hne
  · rename_i hgood
    rw [Bool.or_eq_true, not_or, List.isEmpty_iff, Bool.not_eq_true', Bool.not_eq_false,
      List.all_eq_true] at hgood
    rw [Option.isSome_filter, Option.any_some, decide_eq_true_iff]
    exact ⟨fun hlt => ⟨hgood.1, hgood.2, hlt⟩, fun h => h.2.2⟩

/-- The texts that are read as counts. -/
theorem isSome_word?_iff {text : Text} : (word? text).isSome = true ↔ IsCount text := by
  unfold word?
  split
  · rename_i rest
    rw [isSome_digits?_iff]
    constructor
    · intro hrest
      exact ⟨rest, hrest, .inr rfl⟩
    · rintro ⟨digits, hdigits, rfl | heq⟩
      · have hplus := hdigits.2.1 '+' List.mem_cons_self
        cases hplus
      · rwa [(List.cons.inj heq).2]
  · rename_i hplus
    rw [isSome_digits?_iff]
    constructor
    · intro htext
      exact ⟨text, htext, .inl rfl⟩
    · rintro ⟨digits, hdigits, rfl | rfl⟩
      · exact hdigits
      · exact absurd rfl (hplus digits)

theorem isCount_of_word? {text : Text} {n : Nat} (h : word? text = some n) : IsCount text := by
  apply isSome_word?_iff.1
  rw [h]
  rfl

/-- The sixteen digits are read back as their values. -/
theorem hexDigit?_digitChar {n : Nat} (h : n < 16) : hexDigit? (Nat.digitChar n) = some n := by
  revert n
  decide

theorem length_hexBytes (bytes : Bytes) : (hexBytes bytes).length = 2 * bytes.length := by
  induction bytes with
  | nil => rfl
  | cons b bytes ih =>
      rw [hexBytes, List.flatMap_cons, List.length_append, ← hexBytes, ih]
      simp only [hexByte, List.length_cons, List.length_nil]
      omega

theorem isSome_hexDigit?_of_mem_hexBytes {bytes : Bytes} {c : Char} (h : c ∈ hexBytes bytes) :
    (hexDigit? c).isSome := by
  obtain ⟨b, -, hc⟩ := List.mem_flatMap.1 h
  have hb := b.toNat_lt
  simp only [hexByte, List.mem_cons, List.not_mem_nil, or_false] at hc
  rcases hc with rfl | rfl
  · rw [hexDigit?_digitChar (by omega)]
    rfl
  · rw [hexDigit?_digitChar (by omega)]
    rfl

end QuineRelay.Text
