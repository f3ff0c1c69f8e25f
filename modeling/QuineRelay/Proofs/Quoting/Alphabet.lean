import QuineRelay.Proofs.Quoting.Written
import QuineRelay.Proofs.Text.Malformed

/-!
# What a literal accepts

A payload goes through three checks before it is written in literals, each on another form
of it: the bytes have to be text, the text has to end as the print statement needs, and what
is left for the literal has to keep to the alphabet. A payload that passes is written.
Otherwise the first check that fails is reported, and a byte that is named is one of the
payload, the first at fault: everything before it is text, and of the alphabet unless the
bytes are no text at all.

One literal and a literal for each piece make the same checks, so they are treated together
here. What the accepted payloads are written as is not the concern of this module.
-/

namespace QuineRelay

namespace EscapeTable

/-- What a literal with this table can hold: newlines, spaces and printable ASCII, and the
characters that have a spelling. -/
def Alphabet (table : EscapeTable) (c : Char) : Prop :=
  c = '\n' ∨ (0x20 ≤ c.toNat ∧ c.toNat ≤ 0x7E) ∨ c ∈ table.map Prod.fst

theorem inAlphabet_eq_true_iff {table : EscapeTable} {c : Char} :
    table.inAlphabet c = true ↔ table.Alphabet c := by
  have hlookup : (table.lookup c).isSome = true ↔ c ∈ table.map Prod.fst := by
    rw [List.lookup_isSome_iff, List.mem_map]
    exact exists_congr fun entry => and_congr_right fun _ => beq_iff_eq.trans eq_comm
  rw [inAlphabet, isPlain, Bool.or_eq_true, hlookup]
  simp [Alphabet, or_assoc]

instance (table : EscapeTable) : DecidablePred table.Alphabet :=
  fun _ => decidable_of_iff _ inAlphabet_eq_true_iff

section

variable {table : EscapeTable} {language text front : Text} {c : Char}

/-- A text that does not keep to the alphabet has a first character outside of it. -/
theorem exists_foreign (h : ¬ ∀ c ∈ text, table.Alphabet c) :
    ∃ front c back, text = front ++ c :: back ∧ (∀ a ∈ front, table.Alphabet a) ∧
      ¬ table.Alphabet c := by
  cases hfind : text.find? (fun c => !table.inAlphabet c) with
  | none =>
      have hall := List.find?_eq_none.1 hfind
      apply absurd _ h
      intro c hc
      rw [← inAlphabet_eq_true_iff]
      simpa using hall c hc
  | some c =>
      obtain ⟨hc, front, back, htext, hfront⟩ := List.find?_eq_some_iff_append.1 hfind
      refine ⟨front, c, back, htext, ?_, ?_⟩
      · intro a ha
        rw [← inAlphabet_eq_true_iff]
        simpa using hfront a ha
      · rw [← inAlphabet_eq_true_iff]
        simpa using hc

/-- The search passes over the alphabet and counts its bytes. -/
theorem firstForeign?_append (hfront : ∀ a ∈ front, table.Alphabet a) (hc : ¬ table.Alphabet c)
    (offset : Nat) (back : Text) :
    table.firstForeign? offset (front ++ c :: back) = some (offset + Utf8.size front, c) := by
  induction front generalizing offset with
  | nil =>
      rw [← inAlphabet_eq_true_iff] at hc
      rw [List.nil_append, firstForeign?, if_neg hc]
      rfl
  | cons a front ih =>
      obtain ⟨ha, hrest⟩ := List.forall_mem_cons.1 hfront
      rw [List.cons_append, firstForeign?, if_pos (inAlphabet_eq_true_iff.2 ha), ih hrest,
        Utf8.size_cons, Nat.add_assoc]

/-- The first character outside the alphabet is refused, with its first byte. -/
theorem checkAlphabet_append (hfront : ∀ a ∈ front, table.Alphabet a) (hc : ¬ table.Alphabet c)
    (back : Text) :
    table.checkAlphabet language (front ++ c :: back)
      = .error (.unrepresentable language (Utf8.size front) ((Utf8.encodeChar c).headD 0)) := by
  rw [checkAlphabet, firstForeign?_append hfront hc, Nat.zero_add]

theorem checkAlphabet_eq_error_iff {error : GenerationError} :
    table.checkAlphabet language text = .error error ↔
      ∃ front c back, text = front ++ c :: back ∧ (∀ a ∈ front, table.Alphabet a) ∧
        ¬ table.Alphabet c ∧
        error = .unrepresentable language (Utf8.size front) ((Utf8.encodeChar c).headD 0) := by
  constructor
  · intro h
    by_cases hall : ∀ c ∈ text, table.Alphabet c
    · have hok : table.checkAlphabet language text = .ok () :=
        checkAlphabet_eq_ok_iff.2 fun c hc => inAlphabet_eq_true_iff.2 (hall c hc)
      cases hok.symm.trans h
    · obtain ⟨front, c, back, rfl, hfront, hc⟩ := exists_foreign hall
      rw [checkAlphabet_append hfront hc] at h
      exact ⟨front, c, back, rfl, hfront, hc, (Except.error.inj h).symm⟩
  · rintro ⟨front, c, back, rfl, hfront, hc, rfl⟩
    exact checkAlphabet_append hfront hc back

end

end EscapeTable

theorem Ending.strip_eq_error_iff {ending : Ending} {language payload : Text}
    {error : GenerationError} :
    ending.strip language payload = .error error ↔
      (∀ body, payload ≠ body ++ ending.appended) ∧ error = .missingTerminator language := by
  cases hstrip : ending.strip language payload with
  | ok body =>
      have hpayload := strip_eq_ok_iff.1 hstrip
      constructor
      · intro h
        cases h
      · rintro ⟨hbody, -⟩
        exact absurd hpayload (hbody body)
  | error error' =>
      have hbody (body : Text) : payload ≠ body ++ ending.appended := by
        intro hpayload
        cases hstrip.symm.trans (strip_eq_ok_iff.2 hpayload)
      have herror : error' = .missingTerminator language := by
        cases ending with
        | exact => cases hstrip
        | newline =>
            rw [strip] at hstrip
            split at hstrip
            · cases hstrip
            · exact (Except.error.inj hstrip).symm
      rw [herror, Except.error.injEq, eq_comm]
      exact (and_iff_right hbody).symm

namespace Quoting

/-- A payload that is no text is refused right after the longest text that begins it. -/
theorem asText_eq_error_iff {language : Text} {payload : Bytes} {error : GenerationError} :
    asText language payload = .error error ↔
      (∀ text, payload ≠ Utf8.encode text) ∧ ∃ front byte,
        Utf8.IsLongestText payload front ∧ payload[Utf8.size front]? = some byte ∧
        error = .unrepresentable language (Utf8.size front) byte := by
  by_cases htext : ∃ text, payload = Utf8.encode text
  · obtain ⟨text, hpayload⟩ := htext
    rw [asText_eq_ok_iff.2 hpayload]
    constructor
    · intro h
      cases h
    · rintro ⟨hno, -⟩
      exact absurd hpayload (hno text)
  · rw [not_exists] at htext
    obtain ⟨fault, front, hdecode, hlongest, hoffset, hlength⟩ := Utf8.exists_decode_eq_error htext
    have hbyte : payload[Utf8.size front]? = some (payload.getD (Utf8.size front) 0) := by
      rw [List.getD_eq_getElem?_getD, List.getElem?_eq_getElem hlength, Option.getD_some]
    have herror : asText language payload
        = .error (.unrepresentable language (Utf8.size front)
            (payload.getD (Utf8.size front) 0)) := by
      rw [asText, hdecode, ← hoffset]
    rw [herror, Except.error.injEq]
    constructor
    · rintro rfl
      exact ⟨htext, front, _, hlongest, hbyte, rfl⟩
    · rintro ⟨-, other, byte, hother, hat, rfl⟩
      rw [hother.size_eq_size hlongest, hbyte] at hat
      rw [hother.size_eq_size hlongest, Option.some.inj hat]

/-! ## The quotings that use literals -/

/-- The quotings that hold a payload in literals, with the table of the literals and what
the program prints after them. -/
inductive UsesLiterals : Quoting → EscapeTable → Ending → Prop
  | literal (form : Literal) : UsesLiterals (.literal form) form.escapes form.ending
  | pieces (form : Pieces) : UsesLiterals (.pieces form) form.escapes .exact

variable {quoting : Quoting} {table : EscapeTable} {ending : Ending}

/-- The checks, in the order in which they are made, before anything is written. -/
theorem UsesLiterals.write_eq (h : quoting.UsesLiterals table ending) :
    ∃ source : Text → Text, ∀ language payload, quoting.write language payload =
      (asText language payload).bind fun text =>
        (ending.strip language text).bind fun body =>
          (table.checkAlphabet language body).map fun _ => source body := by
  cases h with
  | literal form =>
      refine ⟨fun body => form.opening ++ form.escapes.escape body ++ form.closing, ?_⟩
      intro language payload
      rfl
  | pieces form =>
      refine ⟨fun body => form.opening
        ++ Text.join form.separator ((form.cut.pieces body).map form.item) ++ form.closing, ?_⟩
      intro language payload
      rfl

/-- Why a payload is refused, and what is reported. The checks before the one that fails
have passed. -/
inductive IsRefusal (table : EscapeTable) (ending : Ending) (language : Text) (payload : Bytes) :
    GenerationError → Prop
  /-- The payload is no text, from right after the longest text that begins it. -/
  | notText (front : Text) (byte : UInt8)
      (not_text : ∀ text, payload ≠ Utf8.encode text)
      (longest : Utf8.IsLongestText payload front)
      (byte_at : payload[Utf8.size front]? = some byte) :
      IsRefusal table ending language payload
        (.unrepresentable language (Utf8.size front) byte)
  /-- The payload is a text that does not end as it has to. -/
  | missingTerminator (text : Text) (is_text : payload = Utf8.encode text)
      (not_ended : ∀ body, text ≠ body ++ ending.appended) :
      IsRefusal table ending language payload (.missingTerminator language)
  /-- The payload is a text with the right end, but `c` is the first character before that
  end which the literal cannot hold. -/
  | foreign (front : Text) (c : Char) (back : Text) (byte : UInt8)
      (is_text : payload = Utf8.encode (front ++ c :: back ++ ending.appended))
      (front_inside : ∀ a ∈ front, table.Alphabet a)
      (outside : ¬ table.Alphabet c)
      (byte_at : payload[Utf8.size front]? = some byte) :
      IsRefusal table ending language payload
        (.unrepresentable language (Utf8.size front) byte)

/-- After a text in a payload comes the first byte of the next character. -/
theorem getElem?_encode_append (front : Text) (c : Char) (back : Text) :
    (Utf8.encode (front ++ c :: back))[Utf8.size front]?
      = some ((Utf8.encodeChar c).headD 0) := by
  obtain ⟨b, more, hc⟩ := Utf8.exists_encodeChar_eq_cons c
  rw [Utf8.size_eq, Utf8.encode_append, List.getElem?_append_right (Nat.le_refl _), Nat.sub_self,
    Utf8.encode_cons, hc]
  rfl

theorem write_eq_error_iff (h : quoting.UsesLiterals table ending) {language : Text}
    {payload : Bytes} {error : GenerationError} :
    quoting.write language payload = .error error ↔
      IsRefusal table ending language payload error := by
  obtain ⟨source, hwrite⟩ := h.write_eq
  rw [hwrite, bind_eq_error_iff]
  constructor
  · rintro (htext | ⟨text, htext, hrest⟩)
    · obtain ⟨hno, front, byte, hlongest, hbyte, rfl⟩ := asText_eq_error_iff.1 htext
      exact .notText front byte hno hlongest hbyte
    rw [asText_eq_ok_iff] at htext
    rcases bind_eq_error_iff.1 hrest with hstrip | ⟨body, hstrip, hcheck⟩
    · obtain ⟨hbody, rfl⟩ := Ending.strip_eq_error_iff.1 hstrip
      exact .missingTerminator text htext hbody
    rw [Ending.strip_eq_ok_iff.1 hstrip] at htext
    obtain ⟨front, c, back, rfl, hfront, hc, rfl⟩ :=
      EscapeTable.checkAlphabet_eq_error_iff.1 (map_eq_error_iff.1 hcheck)
    refine .foreign front c back _ htext hfront hc ?_
    rw [htext, List.append_assoc, List.cons_append]
    exact getElem?_encode_append front c _
  · rintro (⟨front, byte, hno, hlongest, hbyte⟩ | ⟨text, htext, hbody⟩ |
      ⟨front, c, back, byte, htext, hfront, hc, hbyte⟩)
    · exact .inl (asText_eq_error_iff.2 ⟨hno, front, byte, hlongest, hbyte, rfl⟩)
    · refine .inr ⟨text, asText_eq_ok_iff.2 htext, bind_eq_error_iff.2 (.inl ?_)⟩
      exact Ending.strip_eq_error_iff.2 ⟨hbody, rfl⟩
    · refine .inr ⟨_, asText_eq_ok_iff.2 htext, bind_eq_error_iff.2 (.inr ⟨front ++ c :: back, ?_⟩)⟩
      have hfirst : byte = (Utf8.encodeChar c).headD 0 := by
        rw [htext, List.append_assoc, List.cons_append, getElem?_encode_append] at hbyte
        exact (Option.some.inj hbyte).symm
      refine ⟨Ending.strip_eq_ok_iff.2 rfl, map_eq_error_iff.2 ?_⟩
      exact EscapeTable.checkAlphabet_eq_error_iff.2 ⟨front, c, back, rfl, hfront, hc, hfirst ▸ rfl⟩

theorem exists_write_eq_ok_iff (h : quoting.UsesLiterals table ending) {language : Text}
    {payload : Bytes} :
    (∃ source, quoting.write language payload = .ok source) ↔
      ∃ body, payload = Utf8.encode (body ++ ending.appended) ∧
        ∀ c ∈ body, table.Alphabet c := by
  obtain ⟨source, hwrite⟩ := h.write_eq
  constructor
  · rintro ⟨written, hwritten⟩
    rw [hwrite] at hwritten
    obtain ⟨text, htext, hwritten⟩ := bind_eq_ok_iff.1 hwritten
    obtain ⟨body, hbody, hwritten⟩ := bind_eq_ok_iff.1 hwritten
    obtain ⟨_, halphabet, -⟩ := map_eq_ok_iff.1 hwritten
    rw [asText_eq_ok_iff, Ending.strip_eq_ok_iff.1 hbody] at htext
    refine ⟨body, htext, fun c hc => EscapeTable.inAlphabet_eq_true_iff.1 ?_⟩
    exact EscapeTable.checkAlphabet_eq_ok_iff.1 halphabet c hc
  · rintro ⟨body, hpayload, halphabet⟩
    have hcheck : table.checkAlphabet language body = .ok () :=
      EscapeTable.checkAlphabet_eq_ok_iff.2 fun c hc =>
        EscapeTable.inAlphabet_eq_true_iff.2 (halphabet c hc)
    refine ⟨source body, ?_⟩
    rw [hwrite]
    refine bind_eq_ok_iff.2 ⟨_, asText_eq_ok_iff.2 hpayload, bind_eq_ok_iff.2 ⟨body, ?_⟩⟩
    exact ⟨Ending.strip_eq_ok_iff.2 rfl, map_eq_ok_iff.2 ⟨(), hcheck, rfl⟩⟩

/-- What stands before a text in bytes that it begins. -/
theorem take_size_of_prefix {front : Text} {payload : Bytes}
    (h : Utf8.encode front <+: payload) : payload.take (Utf8.size front) = Utf8.encode front := by
  rw [Utf8.size_eq]
  exact (List.prefix_iff_eq_take.1 h).symm

/-- The byte that a refusal names is the first at fault. -/
theorem IsRefusal.located {language language' : Text} {payload : Bytes} {offset : Nat}
    {byte : UInt8}
    (h : IsRefusal table ending language payload (.unrepresentable language' offset byte)) :
    payload[offset]? = some byte ∧ ∃ front, payload.take offset = Utf8.encode front ∧
      ((∃ text, payload = Utf8.encode text) → ∀ c ∈ front, table.Alphabet c) := by
  cases h with
  | notText front _ hno hlongest hbyte =>
      refine ⟨hbyte, front, take_size_of_prefix hlongest.encode_prefix, ?_⟩
      rintro ⟨text, htext⟩
      exact absurd htext (hno text)
  | foreign front c back _ htext hfront hc hbyte =>
      refine ⟨hbyte, front, take_size_of_prefix ?_, fun _ => hfront⟩
      rw [htext, List.append_assoc, Utf8.encode_append]
      exact List.prefix_append _ _

/-- Quotings that use literals accept exactly their alphabet and point at what they refuse.
A payload is written just when it is a text with the right end and holds, before that end,
nothing but characters of the alphabet. Otherwise the refusal is that of the first check
that fails. A byte that is named is one of the payload; what stands before it is text and,
if the whole payload is text, of the alphabet. -/
theorem literals_accept_their_alphabet (h : quoting.UsesLiterals table ending) (language : Text)
    (payload : Bytes) :
    ((∃ source, quoting.write language payload = .ok source) ↔
      ∃ body, payload = Utf8.encode (body ++ ending.appended) ∧ ∀ c ∈ body, table.Alphabet c) ∧
    (∀ error, quoting.write language payload = .error error ↔
      IsRefusal table ending language payload error) ∧
    ∀ language' offset byte,
      quoting.write language payload = .error (.unrepresentable language' offset byte) →
        payload[offset]? = some byte ∧ ∃ front, payload.take offset = Utf8.encode front ∧
          ((∃ text, payload = Utf8.encode text) → ∀ c ∈ front, table.Alphabet c) := by
  refine ⟨exists_write_eq_ok_iff h, fun error => write_eq_error_iff h, ?_⟩
  intro language' offset byte hwrite
  exact ((write_eq_error_iff h).1 hwrite).located

/-- A letter beyond ASCII that has a spelling is accepted and counts two bytes. A missing
newline is reported before a control character, and half a letter before a missing newline. -/
theorem literals_accept_their_alphabet_accent :
    ∃ quoting : Quoting, quoting.UsesLiterals [('"', "\\\""), ('é', "\\351")] .newline ∧
      (∃ source, quoting.write "T" (Utf8.encode "é\"\n") = .ok source) ∧
      quoting.write "T" (Utf8.encode "é\x01é\n") = .error (.unrepresentable "T" 2 0x01) ∧
      quoting.write "T" (Utf8.encode "é\x01é") = .error (.missingTerminator "T") ∧
      quoting.write "T" [0xC3, 0xA9, 0x01, 0xC3] = .error (.unrepresentable "T" 3 0xC3) := by
  let form : Literal := ⟨"say \"", "\"", [('"', "\\\""), ('é', "\\351")], .newline⟩
  have huses : UsesLiterals (.literal form) [('"', "\\\""), ('é', "\\351")] .newline :=
    .literal form
  have hnone : Utf8.IsLongestText [0xC3] [] :=
    .nil (Utf8.ne_encodeChar_append fun c next h => by cases h)
  have hlongest : Utf8.IsLongestText [0xC3, 0xA9, 0x01, 0xC3] "é\x01" :=
    (hnone.cons '\x01').cons 'é'
  refine ⟨.literal form, huses, ?_, ?_, ?_, ?_⟩
  · obtain ⟨haccepts, -, -⟩ := literals_accept_their_alphabet huses "T" (Utf8.encode "é\"\n")
    exact haccepts.2 ⟨"é\"", rfl, by decide⟩
  · obtain ⟨-, hrefuses, -⟩ := literals_accept_their_alphabet huses "T" (Utf8.encode "é\x01é\n")
    exact (hrefuses _).2 (.foreign "é" '\x01' "é" 0x01 rfl (by decide) (by decide) rfl)
  · obtain ⟨-, hrefuses, -⟩ := literals_accept_their_alphabet huses "T" (Utf8.encode "é\x01é")
    apply (hrefuses _).2 (.missingTerminator "é\x01é" rfl _)
    intro body h
    have hlast := congrArg List.getLast? h
    rw [Ending.appended, List.getLast?_append] at hlast
    exact absurd (show some 'é' = some '\n' from hlast) (by decide)
  · obtain ⟨-, hrefuses, -⟩ := literals_accept_their_alphabet huses "T" [0xC3, 0xA9, 0x01, 0xC3]
    apply (hrefuses _).2 (.notText "é\x01" 0xC3 _ hlongest rfl)
    intro text h
    have hlength := hlongest.size_le text (h ▸ List.prefix_refl _)
    rw [Utf8.size_eq text, ← h] at hlength
    exact absurd hlength (by decide)

end Quoting

end QuineRelay
