import Mathlib.Data.List.Basic
import QuineRelay.Proofs.Placeholder

/-!
# Which bytes can be restored

Stored bytes are read from left to right, one token after the other: a byte other
than the mark, or a mark with a known code. A mark is both an escape and an escaped
byte, and the codes are ordinary text elsewhere, so what a byte means depends on all
bytes before it. The tokens settle that. Every byte sequence is made of tokens up to
its end or up to a mark that begins none, and restoring succeeds or fails
accordingly.

The stored forms are the restorable sequences without the bytes that are replaced.
Storing also keeps apart what is text and what is not, since it changes ASCII bytes
only.
-/

namespace QuineRelay.Placeholder

/-! ## Tokens -/

/-- What stands for one byte. -/
inductive Token where
  /-- A byte that is no mark stands for itself. -/
  | plain (b : UInt8) (ne_mark : b ≠ mark)
  /-- A mark and a known code. -/
  | pair (entry : UInt8 × UInt8) (mem_codes : entry ∈ codes)

namespace Token

/-- The bytes of a token. -/
def stored : Token → Bytes
  | .plain b _ => [b]
  | .pair entry _ => [mark, entry.2]

/-- The byte that a token stands for. -/
def byte : Token → UInt8
  | .plain b _ => b
  | .pair entry _ => entry.1

end Token

/-- Known codes are distinct, so a code stands for the byte of its own entry. -/
theorem byte?_of_mem_codes {entry : UInt8 × UInt8} (h : entry ∈ codes) :
    byte? entry.2 = some entry.1 := by
  revert entry
  decide

theorem mem_codes_of_byte? {code b : UInt8} (h : byte? code = some b) : (b, code) ∈ codes := by
  obtain ⟨entry, hfind, rfl⟩ := Option.map_eq_some_iff.1 h
  obtain rfl : entry.2 = code := by simpa using List.find?_some hfind
  exact List.mem_of_find?_eq_some hfind

theorem byte?_eq_none_iff {code : UInt8} :
    byte? code = none ↔ ∀ entry ∈ codes, entry.2 ≠ code := by
  rw [byte?, Option.map_eq_none_iff, List.find?_eq_none]
  simp only [beq_iff_eq, ne_eq]

/-! ## Restoring token by token -/

namespace Token

/-- The token that a byte is stored as. -/
def ofByte (b : UInt8) : Token :=
  match h : code? b with
  | some code => .pair (b, code) (mem_of_lookup h)
  | none => .plain b (by rintro rfl; exact absurd h (by decide))

theorem stored_ofByte (b : UInt8) : (ofByte b).stored = substituteByte b := by
  unfold ofByte
  split
  · rename_i code hcode
    simp only [stored, substituteByte, hcode]
  · rename_i hcode
    simp only [stored, substituteByte, hcode]

theorem byte_ofByte (b : UInt8) : (ofByte b).byte = b := by
  unfold ofByte
  split <;> rfl

end Token

/-- A token is restored to its byte, whatever follows it. -/
theorem restoreFrom_token (offset : Nat) (done : Bytes) (token : Token) (rest : Bytes) :
    restoreFrom offset done (token.stored ++ rest)
      = restoreFrom (offset + token.stored.length) (token.byte :: done) rest := by
  cases token with
  | plain b hb =>
      rw [Token.stored, List.singleton_append, restoreFrom.eq_def]
      simp only [if_neg hb]
      rfl
  | pair entry hentry =>
      rw [Token.stored, List.cons_append, List.singleton_append, restoreFrom.eq_def]
      simp only [if_true, byte?_of_mem_codes hentry]
      rfl

theorem restoreFrom_tokens (offset : Nat) (done : Bytes) (tokens : List Token) (rest : Bytes) :
    restoreFrom offset done (tokens.flatMap Token.stored ++ rest)
      = restoreFrom (offset + (tokens.flatMap Token.stored).length)
          ((tokens.map Token.byte).reverse ++ done) rest := by
  induction tokens generalizing offset done with
  | nil => rfl
  | cons token tokens ih =>
      rw [List.flatMap_cons, List.append_assoc, restoreFrom_token, ih, List.length_append,
        Nat.add_assoc, List.map_cons, List.reverse_cons, List.append_assoc]
      rfl

/-- A mark that begins no token is reported with the bytes after it. `offset` is the
place of the mark. -/
inductive Broken (offset : Nat) : Bytes → Fault → Prop
  /-- Nothing follows the mark. -/
  | dangling : Broken offset [] (.dangling offset)
  /-- The byte after the mark is no code. -/
  | unknownCode (code : UInt8) (rest : Bytes) (unknown : ∀ entry ∈ codes, entry.2 ≠ code) :
      Broken offset (code :: rest) (.unknownCode offset code)

theorem restoreFrom_mark {offset : Nat} {done rest : Bytes} {fault : Fault}
    (h : Broken offset rest fault) : restoreFrom offset done (mark :: rest) = .error fault := by
  rw [restoreFrom.eq_def]
  cases h with
  | dangling => rfl
  | unknownCode code rest hunknown => simp only [if_true, byte?_eq_none_iff.2 hunknown]

/-! ## The tokens of restored bytes -/

/-- What was restored is read off the tokens. -/
theorem tokens_of_restoreFrom {offset : Nat} {done stored bytes : Bytes}
    (h : restoreFrom offset done stored = .ok bytes) :
    ∃ tokens : List Token, stored = tokens.flatMap Token.stored ∧
      bytes = done.reverse ++ tokens.map Token.byte := by
  fun_induction restoreFrom offset done stored with
  | case1 offset done => exact ⟨[], rfl, by simpa using h.symm⟩
  | case2 => cases h
  | case3 offset done code rest b hcode ih =>
      obtain ⟨tokens, rfl, rfl⟩ := ih h
      refine ⟨.pair (b, code) (mem_codes_of_byte? hcode) :: tokens, rfl, ?_⟩
      rw [List.reverse_cons, List.append_assoc, List.map_cons]
      rfl
  | case4 => cases h
  | case5 offset done b rest hb ih =>
      obtain ⟨tokens, rfl, rfl⟩ := ih h
      refine ⟨.plain b hb :: tokens, rfl, ?_⟩
      rw [List.reverse_cons, List.append_assoc, List.map_cons]
      rfl

/-- A fault is that of the first mark, token by token, that begins none. -/
theorem tokens_of_restoreFrom_error {offset : Nat} {done stored : Bytes} {fault : Fault}
    (h : restoreFrom offset done stored = .error fault) :
    ∃ (tokens : List Token) (rest : Bytes), stored = tokens.flatMap Token.stored ++ mark :: rest ∧
      Broken (offset + (tokens.flatMap Token.stored).length) rest fault := by
  fun_induction restoreFrom offset done stored with
  | case1 => cases h
  | case2 offset done =>
      obtain rfl := Except.error.inj h
      exact ⟨[], [], rfl, .dangling⟩
  | case3 offset done code rest b hcode ih =>
      obtain ⟨tokens, after, rfl, hbroken⟩ := ih h
      refine ⟨.pair (b, code) (mem_codes_of_byte? hcode) :: tokens, after, rfl, ?_⟩
      rw [List.flatMap_cons, List.length_append, ← Nat.add_assoc]
      exact hbroken
  | case4 offset done code rest hcode =>
      obtain rfl := Except.error.inj h
      exact ⟨[], code :: rest, rfl, .unknownCode code rest (byte?_eq_none_iff.1 hcode)⟩
  | case5 offset done b rest hb ih =>
      obtain ⟨tokens, after, rfl, hbroken⟩ := ih h
      refine ⟨.plain b hb :: tokens, after, rfl, ?_⟩
      rw [List.flatMap_cons, List.length_append, ← Nat.add_assoc]
      exact hbroken

theorem restore_eq_ok_iff {stored bytes : Bytes} :
    restore stored = .ok bytes ↔ ∃ tokens : List Token,
      stored = tokens.flatMap Token.stored ∧ bytes = tokens.map Token.byte := by
  constructor
  · exact tokens_of_restoreFrom
  · rintro ⟨tokens, rfl, rfl⟩
    have := restoreFrom_tokens 0 [] tokens []
    simpa [restore, restoreFrom] using this

theorem restore_eq_error_iff {stored : Bytes} {fault : Fault} :
    restore stored = .error fault ↔ ∃ (tokens : List Token) (rest : Bytes),
      stored = tokens.flatMap Token.stored ++ mark :: rest ∧
        Broken (tokens.flatMap Token.stored).length rest fault := by
  constructor
  · intro h
    obtain ⟨tokens, rest, hstored, hbroken⟩ := tokens_of_restoreFrom_error h
    rw [Nat.zero_add] at hbroken
    exact ⟨tokens, rest, hstored, hbroken⟩
  · rintro ⟨tokens, rest, rfl, hbroken⟩
    rw [restore, restoreFrom_tokens, Nat.zero_add]
    exact restoreFrom_mark hbroken

/-- Restoring gives back the bytes that were stored. -/
@[simp]
theorem restore_substitute (bytes : Bytes) : restore (substitute bytes) = .ok bytes := by
  refine restore_eq_ok_iff.2 ⟨bytes.map Token.ofByte, ?_, ?_⟩
  · rw [substitute, List.flatMap_map]
    exact List.flatMap_congr fun b _ => (Token.stored_ofByte b).symm
  · rw [List.map_map]
    exact ((List.map_congr_left fun b _ => Token.byte_ofByte b).trans (List.map_id bytes)).symm

/-! ## Bytes that are never stored -/

/-- Space, tab, newline, carriage return and backslash: what a word list cannot hold. -/
def risky : Bytes := [0x20, 0x09, 0x0A, 0x0D, 0x5C]

/-- A byte is replaced when it is risky or the mark itself. -/
theorem code?_eq_none_iff {b : UInt8} : code? b = none ↔ b ∉ risky ∧ b ≠ mark := by
  simp [code?, codes, risky, and_comm, and_left_comm]

theorem notMem_risky_of_mem_substituteByte {b : UInt8} :
    ∀ a ∈ substituteByte b, a ∉ risky := by
  unfold substituteByte
  split
  · rename_i code hcode
    have hall : ∀ entry ∈ codes, ∀ a ∈ [mark, entry.2], a ∉ risky := by decide
    exact hall _ (mem_of_lookup hcode)
  · rename_i hcode
    exact List.forall_mem_singleton.2 (code?_eq_none_iff.1 hcode).1

/-- A token without risky bytes is what its byte is stored as. -/
theorem Token.substituteByte_byte {token : Token} (h : ∀ b ∈ token.stored, b ∉ risky) :
    substituteByte token.byte = token.stored := by
  cases token with
  | plain b hb =>
      have hcode : code? b = none := code?_eq_none_iff.2 ⟨h b List.mem_cons_self, hb⟩
      simp only [substituteByte, Token.byte, hcode, Token.stored]
  | pair entry hentry =>
      have hcode : ∀ entry ∈ codes, code? entry.1 = some entry.2 := by decide
      simp only [substituteByte, Token.byte, hcode entry hentry, Token.stored]

/-- Of the restorable sequences, those without risky bytes are stored forms. -/
theorem substitute_eq_iff_of_restore {stored bytes : Bytes} (h : restore stored = .ok bytes) :
    substitute bytes = stored ↔ ∀ b ∈ stored, b ∉ risky := by
  constructor
  · rintro rfl a ha
    obtain ⟨b, -, hb⟩ := List.mem_flatMap.1 ha
    exact notMem_risky_of_mem_substituteByte a hb
  · obtain ⟨tokens, rfl, rfl⟩ := restore_eq_ok_iff.1 h
    intro hrisky
    rw [substitute, List.flatMap_map]
    refine List.flatMap_congr fun token htoken => ?_
    exact Token.substituteByte_byte fun b hb => hrisky b (List.mem_flatMap.2 ⟨token, htoken, hb⟩)

theorem notMem_risky_of_mem_substitute {bytes : Bytes} : ∀ b ∈ substitute bytes, b ∉ risky :=
  (substitute_eq_iff_of_restore (restore_substitute bytes)).1 rfl

/-! ## Text is stored as text, and nothing else is -/

theorem substituteByte_cases (b : UInt8) :
    substituteByte b = [b] ∨ ∃ entry ∈ codes, b = entry.1 ∧ substituteByte b = [mark, entry.2] := by
  unfold substituteByte
  cases hcode : code? b with
  | none => exact .inl rfl
  | some code => exact .inr ⟨(b, code), mem_of_lookup hcode, rfl, rfl⟩

theorem ascii_of_mem_substituteByte {b : UInt8} (h : b.toNat < 0x80) :
    ∀ a ∈ substituteByte b, a.toNat < 0x80 := by
  rcases substituteByte_cases b with hself | ⟨entry, hentry, -, hpair⟩
  · rw [hself]
    exact List.forall_mem_singleton.2 h
  · have hall : ∀ entry ∈ codes, ∀ a ∈ [mark, entry.2], a.toNat < 0x80 := by decide
    rw [hpair]
    exact hall entry hentry

theorem substituteByte_of_le {b : UInt8} (h : 0x80 ≤ b.toNat) : substituteByte b = [b] := by
  rcases substituteByte_cases b with hself | ⟨entry, hentry, rfl, -⟩
  · exact hself
  · have hall : ∀ entry ∈ codes, ¬ 0x80 ≤ entry.1.toNat := by decide
    exact absurd h (hall entry hentry)

/-- Bytes beyond ASCII at the front of a stored form were stored as they are. -/
theorem exists_of_substitute_eq_append {front back bytes : Bytes}
    (hfront : ∀ b ∈ front, 0x80 ≤ b.toNat) (h : substitute bytes = front ++ back) :
    ∃ rest, bytes = front ++ rest ∧ substitute rest = back := by
  induction front generalizing bytes with
  | nil => exact ⟨bytes, rfl, h⟩
  | cons a front ih =>
      obtain ⟨ha, hlater⟩ := List.forall_mem_cons.1 hfront
      cases bytes with
      | nil => cases h
      | cons b bytes =>
          rw [substitute, List.flatMap_cons, ← substitute] at h
          rcases substituteByte_cases b with hself | ⟨entry, -, -, hpair⟩
          · rw [hself] at h
            obtain ⟨rfl, hstored⟩ := List.cons.inj h
            obtain ⟨rest, rfl, hrest⟩ := ih hlater hstored
            exact ⟨rest, rfl, hrest⟩
          · rw [hpair] at h
            have hmark : mark = a := (List.cons.inj h).1
            exact absurd (hmark ▸ ha) (by decide)

/-- ASCII bytes at the front of a text are characters of their own. -/
theorem exists_of_encode_eq_append {front back : Bytes} {text : Text}
    (hfront : ∀ b ∈ front, b.toNat < 0x80) (h : Utf8.encode text = front ++ back) :
    ∃ rest, Utf8.encode rest = back := by
  induction front generalizing text with
  | nil => exact ⟨text, h⟩
  | cons a front ih =>
      obtain ⟨ha, hlater⟩ := List.forall_mem_cons.1 hfront
      cases text with
      | nil => cases h
      | cons c text =>
          obtain ⟨b, more, hc⟩ := Utf8.exists_encodeChar_eq_cons c
          rw [Utf8.encode_cons, hc] at h
          have hb : b = a := (List.cons.inj h).1
          have hascii : c = Char.ofNat a.toNat :=
            Utf8.eq_ofNat_of_mem_encodeChar (hc ▸ hb ▸ List.mem_cons_self) ha
          rw [← hc, hascii, Utf8.encodeChar_ofNat ha] at h
          exact ih hlater (List.cons.inj h).2

/-- Only text has text as its stored form. -/
theorem exists_encode_of_substitute {bytes : Bytes} {text : Text}
    (h : substitute bytes = Utf8.encode text) : ∃ original, bytes = Utf8.encode original := by
  induction hn : bytes.length using Nat.strongRecOn generalizing bytes text with
  | ind n ih =>
      cases bytes with
      | nil => exact ⟨[], rfl⟩
      | cons b bytes =>
          rcases Nat.lt_or_ge b.toNat 0x80 with hb | hb
          · rw [substitute, List.flatMap_cons, ← substitute] at h
            obtain ⟨rest, hrest⟩ :=
              exists_of_encode_eq_append (ascii_of_mem_substituteByte hb) h.symm
            obtain ⟨original, rfl⟩ := ih bytes.length (by simp [← hn]) hrest.symm rfl
            refine ⟨Char.ofNat b.toNat :: original, ?_⟩
            rw [Utf8.encode_cons, Utf8.encodeChar_ofNat hb, List.singleton_append]
          · cases text with
            | nil =>
                rw [substitute, List.flatMap_cons, substituteByte_of_le hb] at h
                cases h
            | cons c text =>
                rw [Utf8.encode_cons] at h
                have hc : 0x80 ≤ c.toNat := by
                  refine Nat.le_of_not_lt fun hlt => ?_
                  rw [substitute, List.flatMap_cons, substituteByte_of_le hb,
                    Utf8.encodeChar_of_lt hlt] at h
                  have hbyte : b = UInt8.ofNat c.toNat := (List.cons.inj h).1
                  rw [hbyte, Utf8.toNat_ofNat_byte (by omega)] at hb
                  omega
                -- The whole character was stored as it is.
                obtain ⟨rest, hbytes, hrest⟩ :=
                  exists_of_substitute_eq_append (fun a => Utf8.le_of_mem_encodeChar hc) h
                have hshort : rest.length < n := by
                  obtain ⟨a, more, hchar⟩ := Utf8.exists_encodeChar_eq_cons c
                  rw [← hn, hbytes, hchar, List.length_append, List.length_cons]
                  omega
                obtain ⟨original, rfl⟩ := ih rest.length hshort hrest rfl
                exact ⟨c :: original, hbytes⟩

theorem exists_decode_substitute_iff {bytes : Bytes} :
    (∃ text, Utf8.decode (substitute bytes) = .ok text) ↔ ∃ text, Utf8.decode bytes = .ok text := by
  simp only [Utf8.decode_eq_ok_iff]
  constructor
  · rintro ⟨text, htext⟩
    exact exists_encode_of_substitute htext
  · rintro ⟨text, rfl⟩
    exact ⟨_, substitute_encode text⟩

/-! ## The codec -/

/-- Storing loses nothing, leaves no byte that a word list cannot hold, and makes text
of text only. Restoring accepts exactly the sequences of tokens, of which those
without risky bytes are stored forms. Otherwise it reports the first mark, token by
token, that begins none. -/
theorem substitute_restore_codec :
    (∀ bytes, restore (substitute bytes) = .ok bytes ∧
      (∀ b ∈ substitute bytes, b ∉ risky) ∧
      ((∃ text, Utf8.decode (substitute bytes) = .ok text) ↔
        ∃ text, Utf8.decode bytes = .ok text)) ∧
    (∀ stored bytes, restore stored = .ok bytes ↔ ∃ tokens : List Token,
      stored = tokens.flatMap Token.stored ∧ bytes = tokens.map Token.byte) ∧
    (∀ stored bytes, restore stored = .ok bytes →
      (substitute bytes = stored ↔ ∀ b ∈ stored, b ∉ risky)) ∧
    ∀ stored fault, restore stored = .error fault ↔ ∃ (tokens : List Token) (rest : Bytes),
      stored = tokens.flatMap Token.stored ++ mark :: rest ∧
        Broken (tokens.flatMap Token.stored).length rest fault := by
  refine ⟨fun bytes => ⟨?_, ?_, ?_⟩, fun stored bytes => ?_, fun stored bytes h => ?_,
    fun stored fault => ?_⟩
  · exact restore_substitute bytes
  · exact notMem_risky_of_mem_substitute
  · exact exists_decode_substitute_iff
  · exact restore_eq_ok_iff
  · exact substitute_eq_iff_of_restore h
  · exact restore_eq_error_iff

/-- Of four marks and a code in a row, the first two are a mark and the next two are a
mark; a fifth one would be the last byte. A raw space is restored but never stored. -/
theorem substitute_restore_codec_marks :
    restore [mark, mark, 0x5F, mark, mark, mark] = .error (.dangling 5) ∧
      restore [0x20, mark, 0x5F] = .ok [0x20, 0x20] ∧
      substitute [0x20, 0x20] ≠ [0x20, mark, 0x5F] := by
  obtain ⟨-, hok, hstored, herror⟩ := substitute_restore_codec
  let double : Token := .pair (mark, mark) (by decide)
  have hspaces : restore [0x20, mark, 0x5F] = .ok [0x20, 0x20] :=
    (hok _ _).2 ⟨[.plain 0x20 (by decide), .pair (0x20, 0x5F) (by decide)], rfl, rfl⟩
  refine ⟨(herror _ _).2 ⟨[double, .plain 0x5F (by decide), double], [], rfl, .dangling⟩, hspaces,
    fun h => ?_⟩
  exact (hstored _ _ hspaces).1 h 0x20 List.mem_cons_self (by decide)

end QuineRelay.Placeholder
