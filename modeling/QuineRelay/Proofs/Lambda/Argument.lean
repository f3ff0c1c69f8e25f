import QuineRelay.Lambda.Call
import QuineRelay.Proofs.Results
import QuineRelay.Proofs.Text.Boundaries
import QuineRelay.Proofs.Text.Cutting
import QuineRelay.Proofs.Text.Numeral
import QuineRelay.Proofs.Text.Utf8

/-!
# Arguments are read back

The expression of an argument is parsed as the argument it was made from: a string
from its hexadecimal digits, a table entry by entry, a count from its decimal
digits. The marks that parsing looks for stand nowhere inside the parts they
separate, because the parts are made of digits and a few marks of their own.

Parsing takes digits by their bytes, and a character of several bytes may be divided
by that. An expression holds no such character.
-/

namespace QuineRelay.Argument

/-! ## Hexadecimal digits -/

/-- A hexadecimal digit is one byte. -/
theorem charSize_of_hexDigit? {c : Char} (h : (Text.hexDigit? c).isSome) :
    Utf8.charSize c = 1 := by
  have hrange := Text.isSome_hexDigit?_iff.1 h
  rw [Utf8.charSize, if_pos (by omega)]

theorem bytePair?_hexByte (b : UInt8) :
    bytePair? (Nat.digitChar (b.toNat / 16)) (Nat.digitChar (b.toNat % 16)) = some b := by
  have hb := b.toNat_lt
  have hplus : Nat.digitChar (b.toNat / 16) ≠ '+' := by
    intro h
    have := Text.hexDigit?_digitChar (n := b.toNat / 16) (by omega)
    rw [h] at this
    simp [Text.hexDigit?] at this
  rw [bytePair?, if_neg hplus, Text.hexDigit?_digitChar (by omega),
    Text.hexDigit?_digitChar (by omega)]
  simp only [Nat.div_add_mod, UInt8.ofNat_toNat]

/-- The digits of bytes are read back as those bytes, pair by pair. -/
theorem digitBytesFrom_hexBytes (done bytes : Bytes) :
    digitBytesFrom done (Text.hexBytes bytes) = .ok (done.reverse ++ bytes) := by
  induction bytes generalizing done with
  | nil => simp [Text.hexBytes, digitBytesFrom]
  | cons b bytes ih =>
      have hdigit {c : Char} (hc : c ∈ Text.hexByte b) : Utf8.charSize c = 1 := by
        have hmem : c ∈ Text.hexBytes [b] := by simpa [Text.hexBytes] using hc
        exact charSize_of_hexDigit? (Text.isSome_hexDigit?_of_mem_hexBytes hmem)
      have hhigh := hdigit (c := Nat.digitChar (b.toNat / 16)) (by simp [Text.hexByte])
      have hlow := hdigit (c := Nat.digitChar (b.toNat % 16)) (by simp [Text.hexByte])
      rw [Text.hexBytes, List.flatMap_cons, Text.hexByte]
      simp only [List.cons_append, List.nil_append, digitBytesFrom, hhigh, hlow, if_true,
        bytePair?_hexByte]
      rw [← Text.hexBytes, ih]
      simp

theorem size_hexBytes (bytes : Bytes) : Utf8.size (Text.hexBytes bytes) = 2 * bytes.length := by
  rw [Utf8.size_eq_length, Text.length_hexBytes]
  intro c hc
  exact charSize_of_hexDigit? (Text.isSome_hexDigit?_of_mem_hexBytes hc)

/-! ## Strings -/

theorem parseText_ofText (text : Text) : parseText (ofText text) = .ok text := by
  have hdigits : (Text.afterOpening? "h[\"" (ofText text)).bind (Text.beforeEnding? "\"]")
      = some (Text.hexBytes (Utf8.encode text)) :=
    Text.bind_beforeEnding?_eq_some_iff.2 rfl
  rw [parseText, hdigits]
  simp only [size_hexBytes, Nat.mul_mod_right, if_true, digitBytesFrom_hexBytes, List.reverse_nil,
    List.nil_append, Utf8.decode?, Utf8.decode_encode, Except.toOption]

/-- The expression for a string is made of digits and the call of the helper. -/
theorem forall_mem_ofText (text : Text) :
    ∀ c ∈ ofText text, c ∈ ['h', '[', '"', ']'] ∨ (Text.hexDigit? c).isSome := by
  simp only [ofText, List.forall_mem_append]
  exact ⟨⟨by decide, fun c hc => .inr (Text.isSome_hexDigit?_of_mem_hexBytes hc)⟩, by decide⟩

theorem parseEntry_ofEntry (entry : Char × Text) :
    parseEntry (ofEntry entry) = .ok ([entry.1], entry.2) := by
  have hcut : Text.cutAt? "=>" (ofEntry entry) = some (ofText [entry.1], ofText entry.2) := by
    rw [ofEntry, List.append_assoc]
    exact Text.cutAt?_append_of_notMem fun h => absurd (forall_mem_ofText _ _ h) (by decide)
  rw [parseEntry, hcut]
  simp only [parseText_ofText]
  rfl

/-! ## Arguments -/

theorem parse_ofText (text : Text) : parse (ofText text) = .ok (.text text) := by
  have hopening : Text.startsWith "h[" (ofText text) = true := by
    rw [ofText, List.append_assoc]
    rfl
  unfold parse
  split
  · rename_i inner h
    rw [ofText, List.append_assoc] at h
    cases h
  · rw [if_pos hopening, parseText_ofText]
    rfl

/-- The keys of a table become strings of one character. -/
def entries (table : EscapeTable) : List (Text × Text) :=
  table.map fun entry => ([entry.1], entry.2)

theorem mapM_parseEntry (table : EscapeTable) :
    (table.map ofEntry).mapM parseEntry = .ok (entries table) := by
  induction table with
  | nil => rfl
  | cons entry table ih =>
      rw [List.map_cons, List.mapM_cons, parseEntry_ofEntry, ih]
      rfl

theorem forall_mem_ofEntry (entry : Char × Text) :
    ∀ c ∈ ofEntry entry, c ∈ ['h', '[', '"', ']', '=', '>'] ∨ (Text.hexDigit? c).isSome := by
  have hstring (text : Text) :
      ∀ c ∈ ofText text, c ∈ ['h', '[', '"', ']', '=', '>'] ∨ (Text.hexDigit? c).isSome :=
    fun c hc => (forall_mem_ofText text c hc).imp_left (by simp +contextual [or_imp])
  simp only [ofEntry, List.forall_mem_append]
  exact ⟨⟨hstring _, by decide⟩, hstring _⟩

/-- A table is read entry by entry, in its order. -/
theorem parse_ofTable (table : EscapeTable) :
    parse (ofTable table) = .ok (.table (entries table)) := by
  have hinner : ofTable table
      = '\x7b' :: (Text.join "," (table.map ofEntry) ++ "\x7d") := rfl
  rw [hinner, parse, Text.beforeEnding?_eq_some_iff.2 rfl]
  cases table with
  | nil => rfl
  | cons entry table =>
      have hsplit : Text.splitOn ',' (Text.join "," ((entry :: table).map ofEntry))
          = (entry :: table).map ofEntry := by
        refine Text.splitOn_join fun p hp => ?_
        obtain ⟨e, -, rfl⟩ := List.mem_map.1 (List.map_cons ▸ hp)
        exact fun h => absurd (forall_mem_ofEntry e _ h) (by decide)
      -- What stands between the braces is not empty, so it is read entry by entry.
      have hne : Text.join "," ((entry :: table).map ofEntry) ≠ [] := by
        rw [List.map_cons, Text.join_cons]
        simp [ofEntry, ofText]
      simp only [hsplit, mapM_parseEntry]
      rfl

theorem parse_decimal {n : Nat} (h : n < Text.wordLimit) :
    parse (Text.decimal n) = .ok (.number n) := by
  unfold parse
  split
  · rename_i inner hbrace
    have := Text.isDigit_of_mem_decimal (n := n) (hbrace ▸ List.mem_cons_self)
    simp at this
  · rw [if_neg, Text.word?_decimal h]
    intro hcall
    obtain ⟨rest, hrest⟩ := List.isPrefixOf_iff_prefix.1 hcall
    have := Text.isDigit_of_mem_decimal (n := n) (c := 'h') (hrest ▸ by simp)
    simp at this

/-! ## Divided characters -/

/-- Digits can divide no character where every character is one byte. -/
theorem exists_of_digitBytesFrom {done : Bytes} {digits : Text}
    (h : digitBytesFrom done digits = .error .dividedCharacter) :
    ∃ c ∈ digits, Utf8.charSize c ≠ 1 := by
  fun_induction digitBytesFrom done digits with
  | case1 => cases h
  | case2 => cases h
  | case3 done a _ b rest _ byte _ ih =>
      obtain ⟨c, hc, hsize⟩ := ih h
      exact ⟨c, by simp [hc], hsize⟩
  | case4 => cases h
  | case5 done a _ b rest hb => exact ⟨b, by simp, hb⟩
  | case6 => cases h
  | case7 done a rest ha => exact ⟨a, by simp, ha⟩

theorem exists_of_parseText {text : Text} (h : parseText text = .error .dividedCharacter) :
    ∃ c ∈ text, Utf8.charSize c ≠ 1 := by
  rw [parseText] at h
  split at h
  · cases h
  rename_i digits hdigits
  rw [Text.bind_beforeEnding?_eq_some_iff] at hdigits
  split at h
  · split at h
    · rename_i fault hfault
      obtain rfl := Except.error.inj h
      obtain ⟨c, hc, hsize⟩ := exists_of_digitBytesFrom hfault
      refine ⟨c, ?_, hsize⟩
      rw [hdigits]
      simp [hc]
    · split at h
      · cases h
      · cases h
  · cases h

theorem exists_of_parseEntry {text : Text} (h : parseEntry text = .error .dividedCharacter) :
    ∃ c ∈ text, Utf8.charSize c ≠ 1 := by
  rw [parseEntry] at h
  split at h
  · cases h
  rename_i key value hcut
  obtain ⟨index, -, hparts⟩ := Option.map_eq_some_iff.1 hcut
  obtain ⟨rfl, rfl⟩ := Prod.mk.inj hparts
  rcases bind_eq_error_iff.1 h with hkey | ⟨key, -, h⟩
  · obtain ⟨c, hc, hsize⟩ := exists_of_parseText hkey
    exact ⟨c, List.mem_of_mem_take hc, hsize⟩
  · rcases bind_eq_error_iff.1 h with hvalue | ⟨value, -, h⟩
    · obtain ⟨c, hc, hsize⟩ := exists_of_parseText hvalue
      exact ⟨c, List.mem_of_mem_drop hc, hsize⟩
    · cases h

/-- Reading divides a character only where a text holds one of several bytes. -/
theorem exists_of_parse {text : Text} (h : parse text = .error .dividedCharacter) :
    ∃ c ∈ text, Utf8.charSize c ≠ 1 := by
  unfold parse at h
  split at h
  · rename_i inner
    split at h
    · cases h
    · cases h
    · rename_i entries _ hclosing
      rw [Text.beforeEnding?_eq_some_iff] at hclosing
      obtain ⟨part, hpart, hfault⟩ := exists_error_of_mapM (map_eq_error_iff.1 h)
      obtain ⟨c, hc, hsize⟩ := exists_of_parseEntry hfault
      refine ⟨c, ?_, hsize⟩
      rw [hclosing]
      exact List.mem_cons_of_mem _
        (List.mem_append_left _ ((Text.isInfix_of_mem_splitOn hpart).subset hc))
  · split at h
    · exact exists_of_parseText (map_eq_error_iff.1 h)
    · split at h
      · cases h
      · cases h

/-! ## What expressions are made of -/

/-- The expressions that arguments have. -/
inductive IsExpression : Text → Prop
  | text (value : Text) : IsExpression (ofText value)
  | table (table : EscapeTable) : IsExpression (ofTable table)
  | number (n : Nat) : IsExpression (Text.decimal n)

theorem forall_mem_ofTable (table : EscapeTable) :
    ∀ c ∈ ofTable table,
      c ∈ ['h', '[', '"', ']', '=', '>', ',', '\x7b', '\x7d'] ∨ (Text.hexDigit? c).isSome := by
  have hentries : ∀ c ∈ Text.join "," (table.map ofEntry),
      c ∈ ['h', '[', '"', ']', '=', '>', ',', '\x7b', '\x7d'] ∨ (Text.hexDigit? c).isSome := by
    intro c hc
    rcases Text.mem_join hc with hcomma | ⟨part, hpart, hc⟩
    · obtain rfl : c = ',' := List.mem_singleton.1 hcomma
      exact .inl (by decide)
    · obtain ⟨entry, -, rfl⟩ := List.mem_map.1 hpart
      exact (forall_mem_ofEntry entry c hc).imp_left (by simp +contextual [or_imp])
  simp only [ofTable, List.forall_mem_append]
  exact ⟨⟨by decide, hentries⟩, by decide⟩

/-- Every character of an expression is one byte, whatever the argument holds. -/
theorem IsExpression.charSize_eq_one {expression : Text} (h : IsExpression expression) :
    ∀ c ∈ expression, Utf8.charSize c = 1 := by
  intro c hc
  cases h with
  | text value =>
      rcases forall_mem_ofText value c hc with hmark | hdigit
      · have hmarks : ∀ c ∈ ['h', '[', '"', ']'], Utf8.charSize c = 1 := by decide
        exact hmarks c hmark
      · exact charSize_of_hexDigit? hdigit
  | table table =>
      rcases forall_mem_ofTable table c hc with hmark | hdigit
      · have hmarks : ∀ c ∈ ['h', '[', '"', ']', '=', '>', ',', '\x7b', '\x7d'],
            Utf8.charSize c = 1 := by
          decide
        exact hmarks c hmark
      · exact charSize_of_hexDigit? hdigit
  | number n =>
      apply charSize_of_hexDigit?
      rw [Text.hexDigit?, if_pos (Text.isDigit_of_mem_decimal hc)]
      rfl

/-- Where every character is one byte, every place is a boundary. -/
theorem isBoundary_of_charSize {text : Text} (h : ∀ c ∈ text, Utf8.charSize c = 1) {index : Nat}
    (hindex : index ≤ Utf8.size text) : Utf8.isBoundary (Utf8.encode text) index = true := by
  rw [Utf8.size_eq_length h] at hindex
  apply Utf8.isBoundary_encode_iff.2
  refine ⟨index, hindex, ?_⟩
  rw [Utf8.size_eq_length fun c hc => h c (List.mem_of_mem_take hc), List.length_take,
    Nat.min_eq_left hindex]

/-- Arguments are read back from their expressions: every text, every escape table with its
entries in their order, also where keys are repeated, and every count. An expression may be
sliced anywhere, for it holds no character of more than one byte, and only such a character
can be divided when an expression is read. -/
theorem expressions_read_back :
    (∀ text : Text, parse (ofText text) = .ok (.text text)) ∧
    (∀ table : EscapeTable, parse (ofTable table)
      = .ok (.table (table.map fun entry => ([entry.1], entry.2)))) ∧
    (∀ n < UInt64.size, parse (Text.decimal n) = .ok (.number n)) ∧
    (∀ expression, IsExpression expression → ∀ index ≤ Utf8.size expression,
      Utf8.isBoundary (Utf8.encode expression) index = true) ∧
    (∀ expression, IsExpression expression → parse expression ≠ .error .dividedCharacter) ∧
    ∀ text, parse text = .error .dividedCharacter → ∃ c ∈ text, Utf8.charSize c ≠ 1 := by
  refine ⟨parse_ofText, parse_ofTable, fun n hn => parse_decimal hn, ?_, ?_,
    fun text => exists_of_parse⟩
  · intro expression hexpression index hindex
    exact isBoundary_of_charSize hexpression.charSize_eq_one hindex
  · intro expression hexpression hdivided
    obtain ⟨c, hc, hsize⟩ := exists_of_parse hdivided
    exact hsize (hexpression.charSize_eq_one c hc)

/-- Marks of the expressions inside an argument, a repeated key with no spelling, and the
largest count. -/
theorem expressions_read_back_marks :
    parse "h[\"225d2cc3a9\"]" = .ok (.text "\"],é") ∧
      parse "\x7bh[\"2c\"]=>h[\"3d3e\"],h[\"2c\"]=>h[\"\"]\x7d"
        = .ok (.table [([','], "=>"), ([','], [])]) ∧
      18446744073709551615 < UInt64.size ∧
      parse "18446744073709551615" = .ok (.number 18446744073709551615) := by
  obtain ⟨htext, htable, hnumber, -⟩ := expressions_read_back
  have hdigits : Text.decimal 18446744073709551615 = "18446744073709551615" := by
    decide +kernel
  exact ⟨htext "\"],é", htable [(',', "=>"), (',', [])], by decide,
    hdigits ▸ hnumber 18446744073709551615 (by decide)⟩

end QuineRelay.Argument
