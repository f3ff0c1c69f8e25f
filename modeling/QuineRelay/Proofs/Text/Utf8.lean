import QuineRelay.Text.Utf8

/-!
# Decoding undoes encoding

Decoding accepts exactly the byte sequences that encode a text, and gives that
text back. Both directions come down to one character. Its continuation bytes hold
the lower bits of its number, six each, and are read back by induction on how many
are owed. Its first byte is left, and there one table decides: what it announces
fixes the number of bytes and the bounds on the second one. A character of each
length meets the bounds of its first byte and no others, and that is all the case
splits below check.

For the marks of programs only ASCII matters: an ASCII byte is never a part of a
longer character.
-/

namespace QuineRelay.Utf8

/-! ## Characters in range -/

theorem toNat_ofNat {n : Nat} (h : n.isValidChar) : (Char.ofNat n).toNat = n := by
  rw [Char.ofNat, dif_pos h]
  rfl

theorem ofNat_eq_of_toNat {n : Nat} {b : UInt8} (h : n = b.toNat) : UInt8.ofNat n = b := by
  rw [h, UInt8.ofNat_toNat]

theorem toNat_ofNat_byte {n : Nat} (h : n < 256) : (UInt8.ofNat n).toNat = n :=
  UInt8.toNat_ofNat_of_lt' h

/-! ## First bytes -/

/-- What a first byte announces, by the length of the character it starts. -/
theorem Lead.ofByte?_eq_some {b : UInt8} {lead : Lead} (h : Lead.ofByte? b = some lead) :
    (lead.owed = 0 ∧ b.toNat < 0x80 ∧ lead.value = b.toNat) ∨
    (lead.owed = 1 ∧ (0xC2 ≤ b.toNat ∧ b.toNat < 0xE0) ∧ lead.value = b.toNat - 0xC0 ∧
      lead.low.toNat = 0x80 ∧ lead.high.toNat = 0xBF) ∨
    (lead.owed = 2 ∧ (0xE0 ≤ b.toNat ∧ b.toNat < 0xF0) ∧ lead.value = b.toNat - 0xE0 ∧
      (b.toNat = 0xE0 ∧ lead.low.toNat = 0xA0 ∨ b.toNat ≠ 0xE0 ∧ lead.low.toNat = 0x80) ∧
      (b.toNat = 0xED ∧ lead.high.toNat = 0x9F ∨ b.toNat ≠ 0xED ∧ lead.high.toNat = 0xBF)) ∨
    (lead.owed = 3 ∧ (0xF0 ≤ b.toNat ∧ b.toNat < 0xF5) ∧ lead.value = b.toNat - 0xF0 ∧
      (b.toNat = 0xF0 ∧ lead.low.toNat = 0x90 ∨ b.toNat ≠ 0xF0 ∧ lead.low.toNat = 0x80) ∧
      (b.toNat = 0xF4 ∧ lead.high.toNat = 0x8F ∨ b.toNat ≠ 0xF4 ∧ lead.high.toNat = 0xBF)) := by
  simp only [Lead.ofByte?, UInt8.lt_iff_toNat_lt, ← UInt8.toNat_inj, UInt8.reduceToNat] at h
  repeat' split at h
  all_goals cases h
  all_goals simp_all
  all_goals omega

theorem Lead.exists_ofByte? {b : UInt8}
    (h : b.toNat < 0x80 ∨ 0xC2 ≤ b.toNat ∧ b.toNat < 0xF5) :
    ∃ lead, Lead.ofByte? b = some lead := by
  simp only [Lead.ofByte?, UInt8.lt_iff_toNat_lt, ← UInt8.toNat_inj, UInt8.reduceToNat]
  repeat' split
  all_goals first | exact ⟨_, rfl⟩ | omega

/-! ## Continuation bytes -/

/-- The last `owed` bytes of a character with number `n`. Each holds six bits. -/
def tail : Nat → Nat → Bytes
  | 0, _ => []
  | owed + 1, n => UInt8.ofNat (0x80 + n >>> (6 * owed) % 0x40) :: tail owed n

theorem bounds_of_mem_tail {owed n : Nat} :
    ∀ b ∈ tail owed n, 0x80 ≤ b.toNat ∧ b.toNat ≤ 0xBF := by
  induction owed with
  | zero => exact fun _ h => nomatch h
  | succ owed ih =>
      rw [tail, List.forall_mem_cons]
      refine ⟨?_, ih⟩
      rw [toNat_ofNat_byte (by omega)]
      omega

/-- Reading continuation bytes adds their bits to the value. The bounds on the first
of them are the only ones that a tail can miss. -/
theorem scanTail_eq_scalar_iff {owed : Nat} {low high : UInt8} {value taken : Nat}
    {bytes rest : Bytes} {c : Char} (hlow : 0x80 ≤ low.toNat) (hhigh : high.toNat ≤ 0xBF) :
    scanTail owed low high value taken bytes = .scalar c rest ↔
      ∃ n, n >>> (6 * owed) = value ∧ c = Char.ofNat n ∧ bytes = tail owed n ++ rest ∧
        ∀ b ∈ (tail owed n).head?, low.toNat ≤ b.toNat ∧ b.toNat ≤ high.toNat := by
  induction owed generalizing low high value taken bytes with
  | zero =>
      rw [scanTail, Scan.scalar.injEq]
      constructor
      · rintro ⟨rfl, rfl⟩
        exact ⟨value, rfl, rfl, rfl, fun _ h => nomatch h⟩
      · rintro ⟨n, rfl, rfl, rfl, -⟩
        exact ⟨rfl, rfl⟩
  | succ owed ih =>
      have hshift (n : Nat) : n >>> (6 * (owed + 1)) = (n >>> (6 * owed)) / 0x40 := by
        rw [Nat.mul_succ, Nat.shiftRight_add]
        omega
      cases bytes with
      | nil => simp [scanTail, tail]
      | cons b more =>
          rw [scanTail]
          split
          · rename_i hb
            rw [UInt8.le_iff_toNat_le, UInt8.le_iff_toNat_le] at hb
            rw [ih (by decide) (by decide)]
            constructor
            · rintro ⟨n, hn, rfl, rfl, -⟩
              have hbyte : UInt8.ofNat (0x80 + n >>> (6 * owed) % 0x40) = b :=
                ofNat_eq_of_toNat (by omega)
              refine ⟨n, ?_, rfl, ?_, ?_⟩
              · rw [hshift]
                omega
              · rw [tail, hbyte, List.cons_append]
              · rw [tail, hbyte]
                exact fun _ h => Option.some.inj h ▸ hb
            · rintro ⟨n, hn, rfl, hbytes, -⟩
              obtain ⟨rfl, rfl⟩ := List.cons.inj hbytes
              refine ⟨n, ?_, rfl, rfl, ?_⟩
              · rw [hshift] at hn
                rw [toNat_ofNat_byte (by omega)]
                omega
              · intro a ha
                exact bounds_of_mem_tail a (List.mem_of_head? ha)
          · rename_i hb
            rw [UInt8.le_iff_toNat_le, UInt8.le_iff_toNat_le] at hb
            simp only [reduceCtorEq, false_iff]
            rintro ⟨n, -, -, hbytes, hbounds⟩
            exact hb ((List.cons.inj hbytes).1 ▸ hbounds _ rfl)

/-! ## One character -/

/-- A character is a first byte and as many continuation bytes as its number needs. -/
theorem encodeChar_eq (c : Char) :
    encodeChar c =
      if c.toNat < 0x80 then [UInt8.ofNat c.toNat]
      else if c.toNat < 0x800 then UInt8.ofNat (0xC0 + c.toNat / 0x40) :: tail 1 c.toNat
      else if c.toNat < 0x10000 then UInt8.ofNat (0xE0 + c.toNat / 0x1000) :: tail 2 c.toNat
      else UInt8.ofNat (0xF0 + c.toNat / 0x40000) :: tail 3 c.toNat := by
  simp only [encodeChar, tail, Nat.shiftRight_eq_div_pow, Nat.reduceMul, Nat.reducePow, Nat.div_one]

/-- What is read as a character is the encoding of that character. -/
theorem eq_encodeChar_of_scan {b : UInt8} {bytes rest : Bytes} {c : Char}
    (h : scan b bytes = .scalar c rest) : b :: bytes = encodeChar c ++ rest := by
  unfold scan at h
  split at h
  · rename_i lead hlead
    -- One case for each length. The bounds on the first two bytes put the number
    -- into the range that `encodeChar` writes with this length.
    obtain ⟨howed, hb, hvalue⟩ | ⟨howed, hb, hvalue, hlow, hhigh⟩ |
      ⟨howed, hb, hvalue, hlow, hhigh⟩ | ⟨howed, hb, hvalue, hlow, hhigh⟩ :=
        Lead.ofByte?_eq_some hlead
    all_goals
      rw [howed] at h
    · obtain ⟨rfl, rfl⟩ := Scan.scalar.inj h
      rw [encodeChar_eq, toNat_ofNat (.inl (by omega)), if_pos (by omega),
        ofNat_eq_of_toNat hvalue, List.singleton_append]
    · obtain ⟨n, hn, rfl, rfl, -⟩ :=
        (scanTail_eq_scalar_iff (by omega) (by omega)).1 h
      rw [encodeChar_eq, toNat_ofNat (.inl (by omega)), if_neg (by omega), if_pos (by omega),
        ofNat_eq_of_toNat (b := b) (by omega), List.cons_append]
    · obtain ⟨n, hn, rfl, rfl, hbounds⟩ :=
        (scanTail_eq_scalar_iff (by omega) (by omega)).1 h
      have hfirst := hbounds _ rfl
      rw [toNat_ofNat_byte (by omega)] at hfirst
      simp only [Nat.reduceMul] at hn hfirst
      have hvalid : n.isValidChar := by
        unfold Nat.isValidChar
        omega
      rw [encodeChar_eq, toNat_ofNat hvalid, if_neg (by omega), if_neg (by omega),
        if_pos (by omega), ofNat_eq_of_toNat (b := b) (by omega), List.cons_append]
    · obtain ⟨n, hn, rfl, rfl, hbounds⟩ :=
        (scanTail_eq_scalar_iff (by omega) (by omega)).1 h
      have hfirst := hbounds _ rfl
      rw [toNat_ofNat_byte (by omega)] at hfirst
      simp only [Nat.reduceMul] at hn hfirst
      have hvalid : n.isValidChar := by
        unfold Nat.isValidChar
        omega
      rw [encodeChar_eq, toNat_ofNat hvalid, if_neg (by omega), if_neg (by omega),
        if_neg (by omega), ofNat_eq_of_toNat (b := b) (by omega), List.cons_append]
  · cases h

theorem scan_of_lead {b : UInt8} {lead : Lead} (h : Lead.ofByte? b = some lead) (bytes : Bytes) :
    scan b bytes = scanTail lead.owed lead.low lead.high lead.value 1 bytes := by
  simp only [scan, h]

/-- The encoding of a character is read as that character, whatever follows it. -/
theorem scan_encodeChar (c : Char) (rest : Bytes) :
    ∃ b more, encodeChar c ++ rest = b :: more ∧ scan b more = .scalar c rest := by
  have hvalid : c.toNat < 0xD800 ∨ 0xDFFF < c.toNat ∧ c.toNat < 0x110000 := c.valid
  have hc := Char.ofNat_toNat c
  rw [encodeChar_eq]
  generalize c.toNat = n at hvalid hc
  -- Each length has a first byte of its own, so the other announcements cannot be.
  split
  · have hb := toNat_ofNat_byte (n := n) (by omega)
    obtain ⟨lead, hlead⟩ := Lead.exists_ofByte? (b := UInt8.ofNat n) (by omega)
    obtain ⟨howed, _, hvalue⟩ | h | h | h := Lead.ofByte?_eq_some hlead
    · refine ⟨_, _, rfl, ?_⟩
      rw [scan_of_lead hlead, howed, scanTail, hvalue, hb, hc]
      rfl
    all_goals omega
  split
  · have hb := toNat_ofNat_byte (n := 0xC0 + n / 0x40) (by omega)
    obtain ⟨lead, hlead⟩ := Lead.exists_ofByte? (b := UInt8.ofNat (0xC0 + n / 0x40)) (by omega)
    obtain h | ⟨howed, _, hvalue, hlow, hhigh⟩ | h | h := Lead.ofByte?_eq_some hlead
    · omega
    · refine ⟨_, _, rfl, ?_⟩
      rw [scan_of_lead hlead, howed, scanTail_eq_scalar_iff (by omega) (by omega)]
      refine ⟨n, by omega, hc.symm, rfl, fun a ha => ?_⟩
      have := bounds_of_mem_tail a (List.mem_of_head? ha)
      omega
    all_goals omega
  split
  · have hb := toNat_ofNat_byte (n := 0xE0 + n / 0x1000) (by omega)
    have hb₁ := toNat_ofNat_byte (n := 0x80 + n >>> 6 % 0x40) (by omega)
    obtain ⟨lead, hlead⟩ := Lead.exists_ofByte? (b := UInt8.ofNat (0xE0 + n / 0x1000)) (by omega)
    obtain h | h | ⟨howed, _, hvalue, hlow, hhigh⟩ | h := Lead.ofByte?_eq_some hlead
    · omega
    · omega
    · refine ⟨_, _, rfl, ?_⟩
      rw [scan_of_lead hlead, howed, scanTail_eq_scalar_iff (by omega) (by omega)]
      refine ⟨n, by omega, hc.symm, rfl, fun a ha => ?_⟩
      obtain rfl := Option.some.inj ha
      simp only [Nat.reduceMul]
      omega
    · omega
  · have hb := toNat_ofNat_byte (n := 0xF0 + n / 0x40000) (by omega)
    have hb₁ := toNat_ofNat_byte (n := 0x80 + n >>> 12 % 0x40) (by omega)
    obtain ⟨lead, hlead⟩ := Lead.exists_ofByte? (b := UInt8.ofNat (0xF0 + n / 0x40000)) (by omega)
    obtain h | h | h | ⟨howed, _, hvalue, hlow, hhigh⟩ := Lead.ofByte?_eq_some hlead
    · omega
    · omega
    · omega
    · refine ⟨_, _, rfl, ?_⟩
      rw [scan_of_lead hlead, howed, scanTail_eq_scalar_iff (by omega) (by omega)]
      refine ⟨n, by omega, hc.symm, rfl, fun a ha => ?_⟩
      obtain rfl := Option.some.inj ha
      simp only [Nat.reduceMul]
      omega

/-! ## Texts -/

@[simp]
theorem encode_nil : encode [] = [] := rfl

@[simp]
theorem encode_cons (c : Char) (text : Text) : encode (c :: text) = encodeChar c ++ encode text :=
  rfl

@[simp]
theorem encode_append (front back : Text) : encode (front ++ back) = encode front ++ encode back :=
  List.flatMap_append

theorem decodeFrom_encode (offset : Nat) (done text : Text) :
    decodeFrom offset done (encode text) = .ok (done.reverse ++ text) := by
  induction text generalizing offset done with
  | nil => simp [decodeFrom]
  | cons c text ih =>
      obtain ⟨b, more, hbytes, hscan⟩ := scan_encodeChar c (encode text)
      rw [encode_cons, hbytes, decodeFrom]
      split
      · rename_i c' next h
        obtain ⟨rfl, rfl⟩ := Scan.scalar.inj (hscan.symm.trans h)
        rw [ih, List.reverse_cons, List.append_assoc]
        rfl
      · simp_all
      · simp_all

theorem eq_encode_of_decodeFrom {offset : Nat} {done text : Text} {bytes : Bytes}
    (h : decodeFrom offset done bytes = .ok text) :
    ∃ more, text = done.reverse ++ more ∧ bytes = encode more := by
  fun_induction decodeFrom offset done bytes with
  | case1 => exact ⟨[], by simpa using h.symm, rfl⟩
  | case2 offset done b rest c next hscan ih =>
      obtain ⟨more, htext, rfl⟩ := ih h
      refine ⟨c :: more, ?_, ?_⟩
      · rw [htext, List.reverse_cons, List.append_assoc]
        rfl
      · exact eq_encodeChar_of_scan hscan
  | case3 => simp at h
  | case4 => simp at h

/-- Decoding accepts exactly the encodings, each as the text it encodes. -/
theorem decode_eq_ok_iff {bytes : Bytes} {text : Text} :
    decode bytes = .ok text ↔ bytes = encode text := by
  constructor
  · intro h
    obtain ⟨more, htext, hbytes⟩ := eq_encode_of_decodeFrom h
    rw [htext, hbytes]
    rfl
  · rintro rfl
    exact decodeFrom_encode 0 [] text

@[simp]
theorem decode_encode (text : Text) : decode (encode text) = .ok text :=
  decode_eq_ok_iff.2 rfl

theorem decodeLossyFrom_encode (done text : Text) :
    decodeLossyFrom done (encode text) = done.reverse ++ text := by
  induction text generalizing done with
  | nil => simp [decodeLossyFrom]
  | cons c text ih =>
      obtain ⟨b, more, hbytes, hscan⟩ := scan_encodeChar c (encode text)
      rw [encode_cons, hbytes, decodeLossyFrom]
      split
      · rename_i c' next h
        obtain ⟨rfl, rfl⟩ := Scan.scalar.inj (hscan.symm.trans h)
        rw [ih, List.reverse_cons, List.append_assoc]
        rfl
      · simp_all
      · simp_all

/-- Nothing is lost when what is decoded is text. -/
@[simp]
theorem decodeLossy_encode (text : Text) : decodeLossy (encode text) = text :=
  decodeLossyFrom_encode [] text

theorem encode_injective {first second : Text} (h : encode first = encode second) :
    first = second := by
  have := decode_encode first
  rw [h, decode_encode] at this
  exact (Except.ok.inj this).symm

/-! ## ASCII -/

theorem encodeChar_of_lt {c : Char} (h : c.toNat < 0x80) :
    encodeChar c = [UInt8.ofNat c.toNat] := by
  simp only [encodeChar, if_pos h]

/-- An ASCII byte is the encoding of its character. -/
theorem encodeChar_ofNat {b : UInt8} (h : b.toNat < 0x80) :
    encodeChar (Char.ofNat b.toNat) = [b] := by
  have hc : (Char.ofNat b.toNat).toNat = b.toNat := toNat_ofNat (.inl (by omega))
  rw [encodeChar_of_lt (by omega), hc, UInt8.ofNat_toNat]

/-- Outside ASCII no byte of a character is an ASCII byte. -/
theorem le_of_mem_encodeChar {c : Char} (h : 0x80 ≤ c.toNat) {b : UInt8}
    (hb : b ∈ encodeChar c) : 0x80 ≤ b.toNat := by
  have hvalid : c.toNat < 0xD800 ∨ 0xDFFF < c.toNat ∧ c.toNat < 0x110000 := c.valid
  have hcons {n owed : Nat} (hn : 0x80 ≤ n ∧ n < 256)
      (hb : b ∈ UInt8.ofNat n :: tail owed c.toNat) : 0x80 ≤ b.toNat := by
    rcases List.mem_cons.1 hb with rfl | hb
    · rw [toNat_ofNat_byte hn.2]
      exact hn.1
    · exact (bounds_of_mem_tail b hb).1
  rw [encodeChar_eq, if_neg (Nat.not_lt.2 h)] at hb
  split at hb
  · exact hcons (by omega) hb
  split at hb
  · exact hcons (by omega) hb
  · exact hcons (by omega) hb

theorem exists_encodeChar_eq_cons (c : Char) : ∃ b more, encodeChar c = b :: more := by
  obtain ⟨b, more, hbytes, -⟩ := scan_encodeChar c []
  exact ⟨b, more, (List.append_nil _).symm.trans hbytes⟩

/-- An ASCII byte stands for its own character and is part of no other. -/
theorem eq_ofNat_of_mem_encodeChar {c : Char} {b : UInt8} (hb : b ∈ encodeChar c)
    (hascii : b.toNat < 0x80) : c = Char.ofNat b.toNat := by
  by_cases hc : c.toNat < 0x80
  · rw [encodeChar_of_lt hc, List.mem_singleton] at hb
    rw [hb, toNat_ofNat_byte (by omega), Char.ofNat_toNat]
  · exact absurd (le_of_mem_encodeChar (Nat.not_lt.1 hc) hb) (Nat.not_le.2 hascii)

theorem charSize_eq (c : Char) : charSize c = (encodeChar c).length := by
  unfold charSize encodeChar
  grind

theorem size_eq (text : Text) : size text = (encode text).length := by
  have general (total : Nat) :
      text.foldl (fun total c => total + charSize c) total = total + (encode text).length := by
    induction text generalizing total with
    | nil => simp
    | cons c text ih =>
        rw [List.foldl_cons, ih, encode_cons, List.length_append, charSize_eq, Nat.add_assoc]
  simpa [size] using general 0

/-- Where every character is one byte, bytes are counted like characters. -/
@[simp]
theorem size_append (front back : Text) : size (front ++ back) = size front + size back := by
  rw [size_eq, size_eq, size_eq, encode_append, List.length_append]

theorem size_le_of_isInfix {part text : Text} (h : part <:+: text) : size part ≤ size text := by
  obtain ⟨front, back, rfl⟩ := h
  rw [size_append, size_append]
  omega

theorem size_eq_length {text : Text} (h : ∀ c ∈ text, charSize c = 1) :
    size text = text.length := by
  have hone : ∀ c ∈ text, (encodeChar c).length = 1 := by
    intro c hc
    rw [← charSize_eq, h c hc]
  rw [size_eq, encode, List.length_flatMap, List.map_congr_left hone, List.map_const',
    List.sum_replicate_nat, Nat.mul_one]

end QuineRelay.Utf8
