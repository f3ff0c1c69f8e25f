import QuineRelay.Proofs.Text.Utf8

/-!
# Where bytes stop being text

Characters are self-delimiting: no beginning of a character is a character, so a byte
sequence starts with at most one. Bytes that are no text therefore have one longest
beginning that is text, and the decoder reports the place right after it. The induction
follows the decoder, one character at a time, with the bytes that are left.
-/

namespace QuineRelay.Utf8

/-- The characters at the front of `bytes` make up `text`, and no longer text begins
`bytes`. -/
structure IsLongestText (bytes : Bytes) (text : Text) : Prop where
  encode_prefix : encode text <+: bytes
  size_le : ∀ other, encode other <+: bytes → size other ≤ size text

/-- Bytes start with at most one character. -/
theorem encodeChar_append_inj {c d : Char} {front back : Bytes}
    (h : encodeChar c ++ front = encodeChar d ++ back) : c = d ∧ front = back := by
  obtain ⟨b, more, hfront, hscan⟩ := scan_encodeChar c front
  obtain ⟨b', more', hback, hscan'⟩ := scan_encodeChar d back
  rw [hfront, hback] at h
  obtain ⟨rfl, rfl⟩ := List.cons.inj h
  exact Scan.scalar.inj (hscan.symm.trans hscan')

theorem size_cons (c : Char) (text : Text) : size (c :: text) = charSize c + size text := by
  rw [size_eq, size_eq, encode_cons, List.length_append, charSize_eq]

namespace IsLongestText

/-- Where no character starts, only the empty text begins. -/
theorem nil {bytes : Bytes} (h : ∀ c rest, bytes ≠ encodeChar c ++ rest) :
    IsLongestText bytes [] where
  encode_prefix := List.nil_prefix
  size_le := by
    intro other hother
    cases other with
    | nil => exact Nat.le_refl _
    | cons c other =>
        obtain ⟨rest, hrest⟩ := hother
        rw [encode_cons, List.append_assoc] at hrest
        exact absurd hrest.symm (h c _)

/-- A character in front is read first, by every text. -/
theorem cons {bytes : Bytes} {text : Text} (h : IsLongestText bytes text) (c : Char) :
    IsLongestText (encodeChar c ++ bytes) (c :: text) where
  encode_prefix := by
    rw [encode_cons]
    exact (List.prefix_append_right_inj _).2 h.encode_prefix
  size_le := by
    intro other hother
    cases other with
    | nil => exact Nat.zero_le _
    | cons d other =>
        obtain ⟨rest, hrest⟩ := hother
        rw [encode_cons, List.append_assoc] at hrest
        obtain ⟨rfl, hbytes⟩ := encodeChar_append_inj hrest
        rw [size_cons, size_cons]
        exact Nat.add_le_add_left (h.size_le other ⟨rest, hbytes⟩) _

/-- Two longest texts have the same size. -/
theorem size_eq_size {bytes : Bytes} {first second : Text} (hfirst : IsLongestText bytes first)
    (hsecond : IsLongestText bytes second) : size first = size second :=
  Nat.le_antisymm (hsecond.size_le first hfirst.encode_prefix)
    (hfirst.size_le second hsecond.encode_prefix)

end IsLongestText

/-- A byte at which scanning finds no character starts none. -/
theorem ne_encodeChar_append {b : UInt8} {rest : Bytes}
    (h : ∀ c next, scan b rest ≠ .scalar c next) (c : Char) (next : Bytes) :
    b :: rest ≠ encodeChar c ++ next := by
  intro heq
  obtain ⟨b', more, hbytes, hscan⟩ := scan_encodeChar c next
  rw [hbytes] at heq
  obtain ⟨rfl, rfl⟩ := List.cons.inj heq
  exact h c next hscan

/-- The fault lies right after the longest text, before the end of the bytes. -/
theorem isLongestText_of_decodeFrom {offset : Nat} {done : Text} {bytes : Bytes} {fault : Fault}
    (h : decodeFrom offset done bytes = .error fault) :
    ∃ text, IsLongestText bytes text ∧ fault.offset = offset + size text ∧
      size text < bytes.length := by
  fun_induction decodeFrom offset done bytes with
  | case1 => cases h
  | case2 offset done b rest c next hscan ih =>
      obtain ⟨text, hlongest, hoffset, hlength⟩ := ih h
      refine ⟨c :: text, ?_, ?_, ?_⟩
      · rw [eq_encodeChar_of_scan hscan]
        exact hlongest.cons c
      · rw [hoffset, size_cons, Nat.add_assoc]
      · rw [eq_encodeChar_of_scan hscan, List.length_append, size_cons, charSize_eq]
        exact Nat.add_lt_add_left hlength _
  | case3 offset done b rest n more hscan =>
      obtain rfl := Except.error.inj h
      have hnone (c : Char) (next : Bytes) : scan b rest ≠ .scalar c next := by
        intro hscalar
        cases hscan.symm.trans hscalar
      exact ⟨[], .nil (ne_encodeChar_append hnone), rfl, Nat.succ_pos _⟩
  | case4 offset done b rest hscan =>
      obtain rfl := Except.error.inj h
      have hnone (c : Char) (next : Bytes) : scan b rest ≠ .scalar c next := by
        intro hscalar
        cases hscan.symm.trans hscalar
      exact ⟨[], .nil (ne_encodeChar_append hnone), rfl, Nat.succ_pos _⟩

/-- Bytes that are no text are refused right after the longest text that begins them. -/
theorem exists_decode_eq_error {bytes : Bytes} (h : ∀ text, bytes ≠ encode text) :
    ∃ fault text, decode bytes = .error fault ∧ IsLongestText bytes text ∧
      fault.offset = size text ∧ size text < bytes.length := by
  cases hdecode : decode bytes with
  | ok text => exact absurd (decode_eq_ok_iff.1 hdecode) (h text)
  | error fault =>
      obtain ⟨text, hlongest, hoffset, hlength⟩ := isLongestText_of_decodeFrom hdecode
      rw [Nat.zero_add] at hoffset
      exact ⟨fault, text, rfl, hlongest, hoffset, hlength⟩

end QuineRelay.Utf8
