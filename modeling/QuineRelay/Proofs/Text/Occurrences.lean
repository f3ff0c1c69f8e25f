import QuineRelay.Proofs.Text.Malformed

/-!
# Where the bytes of a text stand

A text may be searched for in another one character by character or byte by byte. Both find
the same places, because the bytes of a text never stand inside a character: every byte of a
character but the first is a continuation byte, and no character begins with one. Only the
empty text stands everywhere.
-/

namespace QuineRelay.Utf8

/-- The bytes of `part` stand in those of `text` from `offset` on. -/
def StandsAt (part text : Text) (offset : Nat) : Prop :=
  encode part <+: (encode text).drop offset

instance (part text : Text) (offset : Nat) : Decidable (StandsAt part text offset) :=
  inferInstanceAs (Decidable (encode part <+: (encode text).drop offset))

variable {part text : Text} {c : Char} {offset i j : Nat}

theorem prefix_of_encode_prefix (h : encode part <+: encode text) : part <+: text := by
  induction part generalizing text with
  | nil => exact List.nil_prefix
  | cons c part ih =>
      obtain ⟨rest, hrest⟩ := h
      cases text with
      | nil =>
          obtain ⟨b, more, hc⟩ := exists_encodeChar_eq_cons c
          rw [encode_cons, hc] at hrest
          cases hrest
      | cons d text =>
          rw [encode_cons, encode_cons, List.append_assoc] at hrest
          obtain ⟨rfl, htext⟩ := encodeChar_append_inj hrest
          exact List.cons_prefix_cons.2 ⟨rfl, ih ⟨rest, htext⟩⟩

/-- The first byte of a character is no continuation byte, and all others are. -/
theorem bounds_of_encodeChar_eq_cons {b : UInt8} {more : Bytes} (h : encodeChar c = b :: more) :
    (b.toNat < 0x80 ∨ 0xC0 ≤ b.toNat) ∧ ∀ a ∈ more, 0x80 ≤ a.toNat ∧ a.toNat < 0xC0 := by
  have hvalid : c.toNat < 0xD800 ∨ 0xDFFF < c.toNat ∧ c.toNat < 0x110000 := c.valid
  have hlonger {n owed : Nat} (hn : 0xC0 ≤ n ∧ n < 256)
      (h : UInt8.ofNat n :: tail owed c.toNat = b :: more) :
      (b.toNat < 0x80 ∨ 0xC0 ≤ b.toNat) ∧ ∀ a ∈ more, 0x80 ≤ a.toNat ∧ a.toNat < 0xC0 := by
    obtain ⟨rfl, rfl⟩ := List.cons.inj h
    refine ⟨.inr ?_, fun a ha => ?_⟩
    · rw [toNat_ofNat_byte hn.2]
      exact hn.1
    · have := bounds_of_mem_tail a ha
      omega
  rw [encodeChar_eq] at h
  split at h
  · obtain ⟨rfl, rfl⟩ := List.cons.inj h
    refine ⟨.inl ?_, fun a ha => nomatch ha⟩
    rw [toNat_ofNat_byte (by omega)]
    assumption
  split at h
  · exact hlonger (by omega) h
  split at h
  · exact hlonger (by omega) h
  · exact hlonger (by omega) h

/-- No text but the empty one stands inside a character. -/
theorem eq_nil_of_prefix_inside {bytes : Bytes} (hpos : 0 < offset)
    (hinside : offset < (encodeChar c).length)
    (h : encode part <+: (encodeChar c ++ bytes).drop offset) : part = [] := by
  cases part with
  | nil => rfl
  | cons d part =>
      obtain ⟨first, more, hc⟩ := exists_encodeChar_eq_cons c
      obtain ⟨b, others, hd⟩ := exists_encodeChar_eq_cons d
      obtain ⟨n, rfl⟩ : ∃ n, offset = n + 1 := ⟨offset - 1, by omega⟩
      rw [hc] at hinside h
      rw [encode_cons, hd, List.cons_append, List.cons_append, List.drop_succ_cons] at h
      have hn : n < more.length := Nat.lt_of_succ_lt_succ hinside
      rw [List.drop_append_of_le_length (Nat.le_of_lt hn), List.drop_eq_getElem_cons hn] at h
      obtain ⟨hb, -⟩ := List.cons_prefix_cons.1 h
      have hfirst := (bounds_of_encodeChar_eq_cons hd).1
      have hlater := (bounds_of_encodeChar_eq_cons hc).2 _ (List.getElem_mem hn)
      rw [hb] at hfirst
      omega

/-- Where the bytes of a text stand, its characters stand, or have stood before. -/
theorem StandsAt.exists_prefix (h : StandsAt part text offset) :
    ∃ i, size (text.take i) ≤ offset ∧ part <+: text.drop i := by
  induction text generalizing offset with
  | nil =>
      rw [StandsAt, encode_nil, List.drop_nil] at h
      exact ⟨0, Nat.zero_le _, prefix_of_encode_prefix h⟩
  | cons c text ih =>
      rw [StandsAt, encode_cons] at h
      rcases Nat.eq_zero_or_pos offset with rfl | hpos
      · exact ⟨0, Nat.zero_le _, prefix_of_encode_prefix h⟩
      rcases Nat.lt_or_ge offset (encodeChar c).length with hinside | hafter
      · rw [eq_nil_of_prefix_inside hpos hinside h]
        exact ⟨0, Nat.zero_le _, List.nil_prefix⟩
      · rw [List.drop_append, List.drop_eq_nil_of_le hafter, List.nil_append] at h
        obtain ⟨i, hsize, hfit⟩ := ih h
        refine ⟨i + 1, ?_, hfit⟩
        rw [List.take_succ_cons, size_cons, charSize_eq]
        omega

/-- Where the characters of a text stand, its bytes stand. -/
theorem standsAt_of_prefix (h : part <+: text.drop i) :
    StandsAt part text (size (text.take i)) := by
  obtain ⟨rest, hrest⟩ := h
  have htext : encode text = encode (text.take i) ++ encode (part ++ rest) := by
    rw [hrest, ← encode_append, List.take_append_drop]
  rw [StandsAt, htext, size_eq, List.drop_left, encode_append]
  exact List.prefix_append _ _

theorem size_take_le_size_take (text : Text) (h : i ≤ j) :
    size (text.take i) ≤ size (text.take j) :=
  size_le_of_isInfix (List.take_prefix_take_left h).isInfix

theorem size_take_lt_size_take (hij : i < j) (hj : j ≤ text.length) :
    size (text.take i) < size (text.take j) := by
  induction text generalizing i j with
  | nil => exact absurd (Nat.lt_of_lt_of_le hij hj) (Nat.not_lt_zero i)
  | cons c text ih =>
      obtain ⟨n, rfl⟩ : ∃ n, j = n + 1 := ⟨j - 1, by omega⟩
      cases i with
      | zero =>
          obtain ⟨b, more, hc⟩ := exists_encodeChar_eq_cons c
          rw [List.take_succ_cons, size_cons, charSize_eq, hc]
          exact Nat.lt_of_lt_of_le (Nat.succ_pos _) (Nat.le_add_right _ _)
      | succ i =>
          rw [List.take_succ_cons, List.take_succ_cons, size_cons, size_cons]
          exact Nat.add_lt_add_left (ih (Nat.lt_of_succ_lt_succ hij) (Nat.le_of_succ_le_succ hj)) _

end QuineRelay.Utf8
