import QuineRelay.Proofs.Text.Occurrences

/-!
# Boundaries between characters

The bytes of a text may be cut between two characters and nowhere else. Such a place is known
by the byte after it, which does not continue a character. From any index, also one behind the
last byte, the way back reaches a boundary, because there is one before the first byte.
-/

namespace QuineRelay.Utf8

variable {text : Text} {bytes : Bytes} {index i j : Nat}

theorem size_singleton (c : Char) : size [c] = charSize c :=
  size_cons c []

theorem charSize_pos (c : Char) : 0 < charSize c := by
  obtain ⟨b, more, hc⟩ := exists_encodeChar_eq_cons c
  rw [charSize_eq, hc]
  exact Nat.succ_pos _

/-- Behind a character the boundaries are those of the text that follows. -/
theorem isBoundary_encodeChar_append (c : Char) (text : Text) (index : Nat) :
    isBoundary (encodeChar c ++ encode text) ((encodeChar c).length + index)
      = isBoundary (encode text) index := by
  obtain ⟨b, more, hc⟩ := exists_encodeChar_eq_cons c
  have hpos : 0 < (encodeChar c).length := by
    rw [hc]
    exact Nat.succ_pos _
  rw [isBoundary, isBoundary, List.getElem?_append_right (Nat.le_add_right _ _),
    Nat.add_sub_cancel_left, beq_eq_false_iff_ne.2 (by omega : (encodeChar c).length + index ≠ 0),
    Bool.false_or, List.length_append]
  by_cases hzero : index = 0
  · -- What follows begins with the first byte of a character, if there is anything.
    subst index
    cases text with
    | nil => simp
    | cons d text =>
        obtain ⟨first, others, hd⟩ := exists_encodeChar_eq_cons d
        have hfirst := (bounds_of_encodeChar_eq_cons hd).1
        rw [encode_cons, hd]
        simp [continues]
        omega
  · rw [beq_eq_false_iff_ne.2 hzero, Bool.false_or]
    cases (encode text)[index]? with
    | some b => rfl
    | none =>
        rw [Bool.eq_iff_iff]
        simp

/-- Inside a character there is no boundary. -/
theorem isBoundary_inside {c : Char} (hpos : 0 < index) (hinside : index < (encodeChar c).length)
    (rest : Bytes) : isBoundary (encodeChar c ++ rest) index = false := by
  obtain ⟨b, more, hc⟩ := exists_encodeChar_eq_cons c
  obtain ⟨n, rfl⟩ : ∃ n, index = n + 1 := ⟨index - 1, by omega⟩
  rw [hc] at hinside
  have hn : n < more.length := Nat.lt_of_succ_lt_succ hinside
  have hbyte := (bounds_of_encodeChar_eq_cons hc).2 _ (List.getElem_mem hn)
  rw [isBoundary, hc, List.cons_append, List.getElem?_cons_succ, List.getElem?_append_left hn,
    List.getElem?_eq_getElem hn]
  simp [continues, hbyte]

/-- The boundaries of a text are the sizes of its beginnings. -/
theorem isBoundary_encode_iff :
    isBoundary (encode text) index = true ↔ ∃ i ≤ text.length, size (text.take i) = index := by
  induction text generalizing index with
  | nil =>
      have hboundary : isBoundary (encode []) index = true ↔ index = 0 := by
        simp [isBoundary, encode_nil]
      rw [hboundary]
      constructor
      · rintro rfl
        exact ⟨0, Nat.zero_le _, rfl⟩
      · rintro ⟨i, -, hi⟩
        rw [List.take_nil] at hi
        exact hi.symm
  | cons c text ih =>
      by_cases hzero : index = 0
      · subst index
        exact iff_of_true rfl ⟨0, Nat.zero_le _, rfl⟩
      rw [encode_cons]
      by_cases hinside : index < (encodeChar c).length
      · rw [isBoundary_inside (by omega) hinside]
        refine iff_of_false (by simp) ?_
        rintro ⟨i, -, hi⟩
        cases i with
        | zero => exact hzero hi.symm
        | succ i =>
            rw [List.take_succ_cons, size_cons, charSize_eq] at hi
            omega
      · obtain ⟨rest, rfl⟩ := Nat.exists_eq_add_of_le (Nat.not_lt.1 hinside)
        rw [isBoundary_encodeChar_append, ih]
        constructor
        · rintro ⟨i, hi, hsize⟩
          refine ⟨i + 1, Nat.succ_le_succ hi, ?_⟩
          rw [List.take_succ_cons, size_cons, charSize_eq, hsize]
        · rintro ⟨i, hi, hsize⟩
          cases i with
          | zero => exact absurd hsize.symm hzero
          | succ i =>
              rw [List.take_succ_cons, size_cons, charSize_eq] at hsize
              exact ⟨i, Nat.le_of_succ_le_succ hi, Nat.add_left_cancel hsize⟩

/-- Going back ends at the last boundary at or before the index. -/
theorem floorBoundary?_eq_some {boundary : Nat} (hle : boundary ≤ index)
    (hboundary : isBoundary bytes boundary = true)
    (hlast : ∀ i, boundary < i → i ≤ index → isBoundary bytes i = false) :
    floorBoundary? bytes index = some boundary := by
  induction index with
  | zero =>
      obtain rfl := Nat.le_zero.1 hle
      rw [floorBoundary?, if_pos hboundary]
  | succ index ih =>
      rw [floorBoundary?]
      rcases Nat.lt_or_eq_of_le hle with hlt | rfl
      · rw [hlast (index + 1) hlt (Nat.le_refl _), if_neg (by simp)]
        exact ih (Nat.le_of_lt_succ hlt) fun i hi hindex => hlast i hi (Nat.le_succ_of_le hindex)
      · rw [if_pos hboundary]

/-- Between two boundaries of a text there is a part of it. -/
theorem slice?_encode (hij : i ≤ j) (hj : j ≤ text.length) :
    slice? (encode text) (size (text.take i)) (size (text.take j))
      = some (encode ((text.take j).drop i)) := by
  have hstart : isBoundary (encode text) (size (text.take i)) = true :=
    isBoundary_encode_iff.2 ⟨i, Nat.le_trans hij hj, rfl⟩
  have hstop : isBoundary (encode text) (size (text.take j)) = true :=
    isBoundary_encode_iff.2 ⟨j, hj, rfl⟩
  have hfront : text.take i ++ (text.take j).drop i = text.take j := by
    have hcut := List.take_append_drop i (text.take j)
    rwa [List.take_take, Nat.min_eq_left hij] at hcut
  have hbytes : encode text
      = encode (text.take i) ++ (encode ((text.take j).drop i) ++ encode (text.drop j)) := by
    rw [← List.append_assoc, ← encode_append, hfront, ← encode_append, List.take_append_drop]
  have hsize : size (text.take j) = size (text.take i) + size ((text.take j).drop i) := by
    rw [← size_append, hfront]
  rw [slice?, if_pos ⟨size_take_le_size_take text hij, hstart, hstop⟩, hsize,
    Nat.add_sub_cancel_left, hbytes, size_eq (text.take i), List.drop_left, size_eq, List.take_left]

/-- A part of a text stands between the bytes of what is before it and of what follows. -/
theorem slice?_encode_append (front part back : Text) :
    slice? (encode (front ++ part ++ back)) (size front) (size (front ++ part))
      = some (encode part) := by
  have hstart : front.length ≤ (front ++ part).length := by simp
  have hstop : (front ++ part).length ≤ (front ++ part ++ back).length := by simp
  have hslice := slice?_encode hstart hstop
  have hfront : (front ++ part ++ back).take front.length = front := by simp
  rwa [hfront, List.take_left, List.drop_left] at hslice

end QuineRelay.Utf8
