import QuineRelay.Placeholder
import QuineRelay.Proofs.Results
import QuineRelay.Proofs.Text.Utf8
import QuineRelay.Text.Blank

/-!
# Placeholders in text

The replaced bytes are ASCII, and an ASCII byte is never a part of a longer
character. So on text the replacement acts character by character, and the stored
form of a text is the encoding of a text again.
-/

namespace QuineRelay.Placeholder

/-- The replaced characters and their codes. -/
def charCodes : List (Char × Char) :=
  codes.map fun entry => (Char.ofNat entry.1.toNat, Char.ofNat entry.2.toNat)

/-- One character as it is stored. -/
def substituteChar (c : Char) : Text :=
  match charCodes.lookup c with
  | some code => [Char.ofNat mark.toNat, code]
  | none => [c]

theorem lookup_charCodes_isSome {c : Char} {b code : UInt8} (hb : b ∈ Utf8.encodeChar c)
    (hcode : code? b = some code) : (charCodes.lookup c).isSome = true := by
  have hall : ∀ entry ∈ codes, entry.1.toNat < 0x80 ∧
      (charCodes.lookup (Char.ofNat entry.1.toNat)).isSome = true := by
    decide
  obtain ⟨hascii, hlookup⟩ := hall _ (mem_of_lookup hcode)
  rwa [Utf8.eq_ofNat_of_mem_encodeChar hb hascii]

theorem substitute_eq_self {bytes : Bytes} (h : ∀ b ∈ bytes, code? b = none) :
    substitute bytes = bytes := by
  induction bytes with
  | nil => rfl
  | cons b bytes ih =>
      obtain ⟨hb, hbytes⟩ := List.forall_mem_cons.1 h
      rw [substitute, List.flatMap_cons, ← substitute, ih hbytes, substituteByte, hb]
      rfl

theorem substitute_encodeChar (c : Char) :
    substitute (Utf8.encodeChar c) = Utf8.encode (substituteChar c) := by
  unfold substituteChar
  split
  · rename_i code hcode
    have hall : ∀ entry ∈ charCodes, substitute (Utf8.encodeChar entry.1)
        = Utf8.encode [Char.ofNat mark.toNat, entry.2] := by
      decide
    exact hall _ (mem_of_lookup hcode)
  · rename_i hnone
    rw [substitute_eq_self, Utf8.encode_cons, Utf8.encode_nil, List.append_nil]
    intro b hb
    cases hcode : code? b with
    | none => rfl
    | some code =>
        have := lookup_charCodes_isSome hb hcode
        simp [hnone] at this

/-- Replacing bytes of a text replaces characters. -/
theorem substitute_encode (text : Text) :
    substitute (Utf8.encode text) = Utf8.encode (text.flatMap substituteChar) := by
  induction text with
  | nil => rfl
  | cons c text ih =>
      rw [Utf8.encode_cons, substitute, List.flatMap_append, ← substitute, ← substitute, ih,
        substitute_encodeChar, List.flatMap_cons, Utf8.encode_append]

/-- A character is stored as itself, or as a mark and its code. -/
theorem substituteChar_cases (c : Char) :
    ((∀ entry ∈ charCodes, c ≠ entry.1) ∧ substituteChar c = [c]) ∨
      ∃ code, (c, code) ∈ charCodes ∧ substituteChar c = [Char.ofNat mark.toNat, code] := by
  unfold substituteChar
  cases hcode : charCodes.lookup c with
  | none =>
      refine .inl ⟨fun entry hentry => ?_, rfl⟩
      simpa using List.lookup_eq_none_iff.1 hcode entry hentry
  | some code => exact .inr ⟨code, mem_of_lookup hcode, rfl⟩

/-- What the placeholders have, and a character that is not replaced has too, holds of
all that is stored for a character. -/
theorem forall_mem_substituteChar {p : Char → Prop} {c : Char}
    (hself : (∀ entry ∈ charCodes, c ≠ entry.1) → p c)
    (hcodes : ∀ entry ∈ charCodes, ∀ a ∈ [Char.ofNat mark.toNat, entry.2], p a) :
    ∀ a ∈ substituteChar c, p a := by
  intro a ha
  rcases substituteChar_cases c with ⟨hne, heq⟩ | ⟨code, hcode, heq⟩
  · rw [heq, List.mem_singleton] at ha
    exact ha ▸ hself hne
  · rw [heq] at ha
    exact hcodes _ hcode a ha

end QuineRelay.Placeholder
