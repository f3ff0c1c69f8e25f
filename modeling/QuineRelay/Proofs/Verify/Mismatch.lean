import QuineRelay.Proofs.Text.Boundaries
import QuineRelay.Verify.Mismatch

/-!
# The arrow of a mismatch

A report counts characters, but the difference that it shows is known as a byte of the expected
output, and a byte may lie inside a character or, when the output is no text, anywhere in its
lossy decoding. The places of a report are found from three bytes, by going back from each to
the next boundary between characters. Counting the characters that lie wholly before a byte
gives the same places, and the one fact that decides everything about them is when a given
number of characters still fits.
-/

namespace QuineRelay.Verify.Mismatch

open QuineRelay.Utf8 (charSize encode floorBoundary? isBoundary size slice?)

variable {text : Text} {limit i : Nat}

/-! ## Characters within a limit -/

theorem charsWithinFrom_eq (count limit : Nat) (text : Text) :
    charsWithinFrom count limit text = count + charsWithin limit text := by
  have general (total count limit : Nat) (text : Text) :
      charsWithinFrom (total + count) limit text = total + charsWithinFrom count limit text := by
    induction text generalizing count limit with
    | nil => rfl
    | cons c text ih =>
        rw [charsWithinFrom, charsWithinFrom]
        split
        · exact ih (count + 1) _
        · rfl
  exact general count 0 limit text

theorem charsWithin_cons (limit : Nat) (c : Char) (text : Text) :
    charsWithin limit (c :: text)
      = if charSize c ≤ limit then charsWithin (limit - charSize c) text + 1 else 0 := by
  rw [charsWithin, charsWithinFrom]
  split
  · rw [charsWithinFrom_eq, Nat.add_comm]
  · rfl

theorem charsWithin_le (limit : Nat) (text : Text) : charsWithin limit text ≤ text.length := by
  induction text generalizing limit with
  | nil => exact Nat.le_refl _
  | cons c text ih =>
      rw [charsWithin_cons]
      split
      · exact Nat.succ_le_succ (ih _)
      · exact Nat.zero_le _

/-- The first characters of a text lie within a limit just when their bytes fit. -/
theorem le_charsWithin_iff (h : i ≤ text.length) :
    i ≤ charsWithin limit text ↔ size (text.take i) ≤ limit := by
  induction text generalizing i limit with
  | nil =>
      obtain rfl := Nat.le_zero.1 h
      exact iff_of_true (Nat.zero_le _) (Nat.zero_le _)
  | cons c text ih =>
      cases i with
      | zero => exact iff_of_true (Nat.zero_le _) (Nat.zero_le _)
      | succ i =>
          have hrest : i ≤ charsWithin (limit - charSize c) text
              ↔ size (text.take i) ≤ limit - charSize c := ih (Nat.le_of_succ_le_succ h)
          rw [charsWithin_cons, List.take_succ_cons, Utf8.size_cons]
          split
          · omega
          · omega

theorem size_take_charsWithin_le (limit : Nat) (text : Text) :
    size (text.take (charsWithin limit text)) ≤ limit :=
  (le_charsWithin_iff (charsWithin_le limit text)).1 (Nat.le_refl _)

theorem charsWithin_mono (text : Text) {other : Nat} (h : limit ≤ other) :
    charsWithin limit text ≤ charsWithin other text :=
  (le_charsWithin_iff (charsWithin_le limit text)).2
    (Nat.le_trans (size_take_charsWithin_le limit text) h)

/-- A limit behind the end of the text is no limit. -/
theorem charsWithin_min (limit : Nat) (text : Text) :
    charsWithin (min limit (encode text).length) text = charsWithin limit text := by
  apply Nat.le_antisymm
  · exact charsWithin_mono text (Nat.min_le_left _ _)
  · rw [le_charsWithin_iff (charsWithin_le limit text), ← Utf8.size_eq]
    exact Nat.le_min.2 ⟨size_take_charsWithin_le limit text,
      Utf8.size_le_of_isInfix (List.take_prefix _ _).isInfix⟩

/-- Going back from a byte to the next boundary leaves the characters before the byte. -/
theorem floorBoundary?_encode (limit : Nat) (text : Text) :
    floorBoundary? (encode text) limit = some (size (text.take (charsWithin limit text))) := by
  apply Utf8.floorBoundary?_eq_some
  · exact size_take_charsWithin_le limit text
  · exact Utf8.isBoundary_encode_iff.2 ⟨_, charsWithin_le limit text, rfl⟩
  · intro index hlt hle
    rw [← Bool.not_eq_true, Utf8.isBoundary_encode_iff]
    rintro ⟨i, hi, rfl⟩
    have hfit := (le_charsWithin_iff hi).2 hle
    exact absurd (Utf8.size_take_le_size_take text hfit) (Nat.not_le.2 hlt)

/-- Every byte of a text lies in a character, which follows those that lie before the byte. -/
theorem exists_char_at (h : limit < size text) :
    ∃ front c back, text = front ++ c :: back ∧ front.length = charsWithin limit text ∧
      size front ≤ limit ∧ limit < size front + charSize c := by
  have hlt : charsWithin limit text < text.length := by
    apply Nat.lt_of_le_of_ne (charsWithin_le limit text)
    intro hall
    have hsize := size_take_charsWithin_le limit text
    rw [hall, List.take_length] at hsize
    exact absurd hsize (Nat.not_le.2 h)
  have hnext : limit < size (text.take (charsWithin limit text + 1)) := by
    rw [← Nat.not_le, ← le_charsWithin_iff hlt]
    exact Nat.not_succ_le_self _
  refine ⟨text.take (charsWithin limit text), text[charsWithin limit text],
    text.drop (charsWithin limit text + 1), ?_, ?_, size_take_charsWithin_le limit text, ?_⟩
  · rw [← List.drop_eq_getElem_cons hlt, List.take_append_drop]
  · exact List.length_take_of_le (Nat.le_of_lt hlt)
  · rwa [List.take_succ_eq_append_getElem hlt, Utf8.size_append, Utf8.size_singleton] at hnext

/-! ## The places of a report -/

variable {mismatch : Mismatch}

theorem snippetStart_le_position (mismatch : Mismatch) :
    mismatch.snippetStart ≤ mismatch.position :=
  charsWithin_mono _ (Nat.sub_le _ _)

theorem position_le_snippetStop (mismatch : Mismatch) :
    mismatch.position ≤ mismatch.snippetStop :=
  charsWithin_mono _ (Nat.le_add_right _ _)

theorem snippetStop_le (mismatch : Mismatch) :
    mismatch.snippetStop ≤ mismatch.expectedText.length :=
  charsWithin_le _ _

theorem startByte?_eq (mismatch : Mismatch) :
    mismatch.startByte? = some (size (mismatch.expectedText.take mismatch.snippetStart)) :=
  floorBoundary?_encode _ _

theorem positionByte?_eq (mismatch : Mismatch) :
    mismatch.positionByte? = some (size (mismatch.expectedText.take mismatch.position)) := by
  rw [positionByte?, floorBoundary?_encode, charsWithin_min]
  rfl

/-- A text in memory has fewer bytes than there are words, so that a sum which is no word lies
behind its end. -/
theorem stopByte?_eq (h : (encode mismatch.expectedText).length < Text.wordLimit) :
    mismatch.stopByte? = some (size (mismatch.expectedText.take mismatch.snippetStop)) := by
  have hsum : min (wordSum mismatch.offset window) (encode mismatch.expectedText).length
      = min (mismatch.offset + window) (encode mismatch.expectedText).length := by
    unfold wordSum
    omega
  rw [stopByte?, hsum, floorBoundary?_encode, charsWithin_min]
  rfl

/-- The part of the snippet before the arrow. -/
theorem take_snippet (mismatch : Mismatch) :
    mismatch.snippet.take mismatch.arrow.start
      = (mismatch.expectedText.take mismatch.position).drop mismatch.snippetStart := by
  have hposition : mismatch.snippetStart + mismatch.arrow.start = mismatch.position :=
    Nat.add_sub_cancel' (snippetStart_le_position mismatch)
  rw [snippet, List.take_drop, hposition, List.take_take,
    Nat.min_eq_left (position_le_snippetStop mismatch)]

theorem arrow_start_le (mismatch : Mismatch) :
    mismatch.arrow.start ≤ mismatch.snippet.length := by
  have hstop := snippetStop_le mismatch
  have hposition := position_le_snippetStop mismatch
  rw [snippet, List.length_drop, List.length_take, Nat.min_eq_left hstop]
  exact Nat.sub_le_sub_right hposition _

theorem arrow_bounds (mismatch : Mismatch) :
    mismatch.arrow.start ≤ mismatch.arrow.stop ∧
      mismatch.arrow.stop ≤ mismatch.snippet.length := by
  have hstart := arrow_start_le mismatch
  have hstop : mismatch.arrow.stop
      = min (mismatch.arrow.start + 1) (max mismatch.snippet.length mismatch.arrow.start) := rfl
  omega

/-- A snippet reaches behind the character at which a text differs, so the arrow points at that
character, between its neighbours in the text. -/
theorem exists_char_at_arrow (htext : mismatch.expected = encode text)
    (hoffset : mismatch.offset < mismatch.expected.length) :
    ∃ front c back after, text = front ++ c :: back ∧
      size front ≤ mismatch.offset ∧ mismatch.offset < size front + charSize c ∧
      mismatch.snippet = mismatch.snippet.take mismatch.arrow.start ++ c :: after ∧
      mismatch.snippet.take mismatch.arrow.start <:+ front ∧ after <+: back := by
  have hexpected : mismatch.expectedText = text := by
    rw [expectedText, htext, Utf8.decodeLossy_encode]
  rw [htext, ← Utf8.size_eq] at hoffset
  obtain ⟨front, c, back, rfl, hlength, hbefore, hwithin⟩ := exists_char_at hoffset
  have hposition : mismatch.position = front.length := by
    rw [position, hexpected, hlength]
  have hsplit : front ++ c :: back = (front ++ [c]) ++ back := by
    rw [List.append_assoc, List.singleton_append]
  -- A character has at most four bytes, far fewer than a window.
  have hstop : front.length + 1 ≤ mismatch.snippetStop := by
    have hchar : charSize c ≤ 4 := by
      unfold charSize
      grind
    have hwindow : window = 60 := rfl
    have htake : (front ++ c :: back).take (front.length + 1) = front ++ [c] := by
      rw [hsplit]
      exact List.take_left' (by simp)
    rw [snippetStop, hexpected, le_charsWithin_iff (by simp), htake, Utf8.size_append,
      Utf8.size_singleton]
    omega
  obtain ⟨more, hmore⟩ := Nat.exists_eq_add_of_le hstop
  have hsnippet : mismatch.snippet = front.drop mismatch.snippetStart ++ c :: back.take more := by
    have hstart := snippetStart_le_position mismatch
    rw [hposition] at hstart
    rw [snippet, hexpected, hmore, hsplit, List.take_append, List.take_of_length_le (by simp),
      List.length_append, List.length_singleton, Nat.add_sub_cancel_left, List.append_assoc,
      List.drop_append_of_le_length hstart, List.singleton_append]
  have htake : mismatch.snippet.take mismatch.arrow.start = front.drop mismatch.snippetStart := by
    rw [take_snippet, hexpected, hposition, List.take_left]
  refine ⟨front, c, back, back.take more, rfl, hbefore, hwithin, ?_, ?_, ?_⟩
  · rw [htake, hsnippet]
  · rw [htake]
    exact List.drop_suffix _ _
  · exact List.take_prefix _ _

theorem label_eq_iff (mismatch : Mismatch) :
    mismatch.label = "output ends here" ↔ mismatch.actual.length ≤ mismatch.offset := by
  rw [label]
  split
  · rename_i hends
    exact iff_of_true rfl hends
  · rename_i hprinted
    refine iff_of_false ?_ hprinted
    intro heq
    cases heq

/-- The report of a mismatch is within bounds for all outputs and offsets. Going back from its
three bytes never leads past the beginning, the places are in order and lie between characters
of the expected text, so the slices exist: they are the snippet and the part of it before the
arrow, which points at no more than one character. When the expected output is text and the
difference is one of its bytes, the arrow points at the character that holds the byte. The label
says that the output ends just when no byte was printed there. -/
theorem report_within_bounds (mismatch : Mismatch)
    (hmemory : (encode mismatch.expectedText).length < Text.wordLimit) :
    ∃ start position stop, mismatch.startByte? = some start ∧
      mismatch.positionByte? = some position ∧ mismatch.stopByte? = some stop ∧
      start ≤ position ∧ position ≤ stop ∧ stop ≤ (encode mismatch.expectedText).length ∧
      (∀ place ∈ [start, position, stop],
        ∃ front back, mismatch.expectedText = front ++ back ∧ (encode front).length = place) ∧
      slice? (encode mismatch.expectedText) start stop = some (encode mismatch.snippet) ∧
      slice? (encode mismatch.expectedText) start position
        = some (encode (mismatch.snippet.take mismatch.arrow.start)) ∧
      mismatch.arrow.start ≤ mismatch.arrow.stop ∧
      mismatch.arrow.stop ≤ mismatch.snippet.length ∧
      (∀ text, mismatch.expected = encode text → mismatch.offset < mismatch.expected.length →
        mismatch.arrow.stop = mismatch.arrow.start + 1 ∧
        ∃ front c back after, text = front ++ c :: back ∧
          size front ≤ mismatch.offset ∧ mismatch.offset < size front + charSize c ∧
          mismatch.snippet = mismatch.snippet.take mismatch.arrow.start ++ c :: after ∧
          mismatch.snippet.take mismatch.arrow.start <:+ front ∧ after <+: back) ∧
      (mismatch.label = "output ends here" ↔ mismatch.actual.length ≤ mismatch.offset) := by
  have hstart := snippetStart_le_position mismatch
  have hposition := position_le_snippetStop mismatch
  have hstop := snippetStop_le mismatch
  obtain ⟨hordered, hinside⟩ := arrow_bounds mismatch
  refine ⟨_, _, _, startByte?_eq mismatch, positionByte?_eq mismatch, stopByte?_eq hmemory,
    Utf8.size_take_le_size_take _ hstart, Utf8.size_take_le_size_take _ hposition, ?_, ?_,
    Utf8.slice?_encode (Nat.le_trans hstart hposition) hstop, ?_, hordered, hinside, ?_,
    label_eq_iff mismatch⟩
  · rw [← Utf8.size_eq]
    exact Utf8.size_le_of_isInfix (List.take_prefix _ _).isInfix
  · intro place hplace
    simp only [List.mem_cons, List.not_mem_nil, or_false] at hplace
    rcases hplace with rfl | rfl | rfl
    all_goals exact ⟨_, _, (List.take_append_drop _ _).symm, (Utf8.size_eq _).symm⟩
  · rw [take_snippet]
    exact Utf8.slice?_encode hstart (Nat.le_trans hposition hstop)
  · intro text htext hoffset
    obtain ⟨front, c, back, after, hchar⟩ := exists_char_at_arrow htext hoffset
    refine ⟨?_, front, c, back, after, hchar⟩
    have hlength := congrArg List.length hchar.2.2.2.1
    have hstop : mismatch.arrow.stop
        = min (mismatch.arrow.start + 1) (max mismatch.snippet.length mismatch.arrow.start) := rfl
    rw [List.length_append, List.length_take, List.length_cons] at hlength
    omega

/-- The third byte of the expected output is the second one of a letter, and nothing was printed
there. -/
theorem report_within_bounds_letter :
    ∃ mismatch : Mismatch, mismatch = ⟨1, "Go", 2, encode "año", encode "a"⟩ ∧
      (encode mismatch.expectedText).length < Text.wordLimit ∧
      mismatch.expected = encode "año" ∧ mismatch.offset < mismatch.expected.length ∧
      (∃ position, mismatch.positionByte? = some position ∧
        slice? (encode mismatch.expectedText) 0 position = some (encode "a")) ∧
      mismatch.arrow.stop = mismatch.arrow.start + 1 ∧
      mismatch.snippet[mismatch.arrow.start]? = some 'ñ' ∧
      mismatch.label = "output ends here" := by
  let mismatch : Mismatch := ⟨1, "Go", 2, encode "año", encode "a"⟩
  have hmemory : (encode mismatch.expectedText).length < Text.wordLimit := by decide +kernel
  have hoffset : mismatch.offset < mismatch.expected.length := by decide +kernel
  obtain ⟨start, position, stop, hstart, hposition, -, -, -, -, -, -, hbefore, -, -, htext,
    hlabel⟩ := report_within_bounds mismatch hmemory
  obtain ⟨hone, -⟩ := htext "año" rfl hoffset
  have hzero : mismatch.startByte? = some 0 := by decide +kernel
  obtain rfl : 0 = start := Option.some.inj (hzero.symm.trans hstart)
  have hfront : mismatch.snippet.take mismatch.arrow.start = "a" := by decide +kernel
  rw [hfront] at hbefore
  exact ⟨mismatch, rfl, hmemory, rfl, hoffset, ⟨position, hposition, hbefore⟩, hone,
    by decide +kernel, hlabel.2 (by decide +kernel)⟩

end QuineRelay.Verify.Mismatch
