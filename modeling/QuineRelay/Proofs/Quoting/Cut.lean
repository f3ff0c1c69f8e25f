import QuineRelay.Proofs.Text.Boundaries
import QuineRelay.Proofs.Text.Cutting
import QuineRelay.Quoting.Pieces

/-!
# Pieces of a payload

Pieces are closed lazily, by counting: a piece ends when a character after it is
met. They are the chunks of the payload all the same, and putting them together
gives the payload, also where a width of zero stands for lines.

The places of the cuts are found by counting characters and adding up their bytes.
The bytes between these places are those of the pieces, so every cut is made at a
boundary. The pieces are the only ones of their form that the payload has.
-/

namespace QuineRelay.Cut

/-- Pieces closed as late as possible are the chunks of the text. The piece being
read holds as many characters as were read since the last cut, so it is full just
when a cut is due. -/
theorem piecesFrom_eq {width count : Nat} {piece : Text} (hwidth : 0 < width)
    (hpiece : piece.length ≤ width) (hcount : ∃ cuts, count = cuts * width + piece.length)
    (hempty : piece = [] → count = 0) (done : List Text) (text : Text) :
    piecesFrom width count piece done text
      = done.reverse ++ Text.chunks width (piece.reverse ++ text) := by
  induction text generalizing count piece done with
  | nil =>
      cases piece with
      | nil => simp [piecesFrom]
      | cons a piece =>
          have hne : (a :: piece).reverse ≠ [] := by simp
          rw [List.append_nil, Text.chunks_eq_take_cons hwidth hne,
            List.take_of_length_le (by simpa using hpiece),
            List.drop_of_length_le (by simpa using hpiece), Text.chunks_nil]
          simp [piecesFrom]
  | cons c rest ih =>
      obtain ⟨cuts, rfl⟩ := hcount
      have hmod : (cuts * width + piece.length) % width = piece.length % width := by
        rw [Nat.mul_comm, Nat.mul_add_mod]
      rw [piecesFrom]
      split
      · rename_i hcut
        have hne : piece ≠ [] := fun hnil => absurd (hempty hnil) (Nat.ne_of_gt hcut.1)
        have hfull : piece.reverse.length = width := by
          have hpos := List.length_pos_iff.2 hne
          have hzero := hcut.2
          rw [hmod] at hzero
          have hdvd := Nat.dvd_of_mod_eq_zero hzero
          rw [List.length_reverse]
          exact Nat.le_antisymm hpiece (Nat.le_of_dvd hpos hdvd)
        have hcount : cuts * width + piece.length + 1 = (cuts + 1) * width + [c].length := by
          rw [List.length_reverse] at hfull
          rw [hfull, Nat.add_mul, Nat.one_mul, List.length_singleton]
        have hone : [c].length ≤ width := hwidth
        have hwhole : piece.reverse ++ c :: rest ≠ [] := by simp
        rw [ih hone ⟨cuts + 1, hcount⟩ (fun h => nomatch h),
          Text.chunks_eq_take_cons hwidth hwhole, List.take_left' hfull, List.drop_left' hfull]
        simp
      · rename_i hcut
        have hroom : (c :: piece).length ≤ width := by
          refine Nat.lt_of_le_of_ne hpiece fun hfull => hcut ⟨by omega, ?_⟩
          rw [hmod, hfull, Nat.mod_self]
        rw [ih hroom ⟨cuts, Nat.add_assoc _ _ _⟩ (fun h => nomatch h)]
        simp

theorem pieces_chunks {width : UInt64} (h : 0 < width) (text : Text) :
    (chunks width).pieces text = Text.chunks width.toNat text := by
  have hwidth : 0 < width.toNat := UInt64.lt_iff_toNat_lt.1 h
  rw [pieces, if_pos h, piecesFrom_eq hwidth (Nat.zero_le _) ⟨0, by simp⟩ (fun _ => rfl)]
  rfl

/-- The width alone tells what the pieces are, where zero stands for lines. -/
theorem pieces_eq (cut : Cut) (text : Text) :
    cut.pieces text =
      if 0 < cut.widthOrZero then Text.chunks cut.widthOrZero text else Text.keptLines text := by
  cases cut with
  | lines => rfl
  | chunks width =>
      by_cases h : 0 < width
      · have hpos : 0 < (Cut.chunks width).widthOrZero := UInt64.lt_iff_toNat_lt.1 h
        rw [pieces_chunks h, if_pos hpos]
        rfl
      · have hzero : ¬ 0 < (Cut.chunks width).widthOrZero := fun hpos =>
          h (UInt64.lt_iff_toNat_lt.2 hpos)
        rw [pieces, if_neg h, if_neg hzero]

/-- The pieces of a text, put together, are the text. -/
theorem flatten_pieces (cut : Cut) (text : Text) : (cut.pieces text).flatten = text := by
  rw [pieces_eq]
  split
  · exact Text.flatten_chunks cut.widthOrZero text
  · exact Text.flatten_keptLines text

/-! ## The places of the pieces -/

/-- The ranges of pieces that stand one after the other, the first one at byte `start`. -/
def rangesOf (start : Nat) : List Text → List (Nat × Nat)
  | [] => []
  | piece :: pieces =>
    (start, start + Utf8.size piece) :: rangesOf (start + Utf8.size piece) pieces

theorem size_reverse_cons (c : Char) (piece : Text) :
    Utf8.size (c :: piece).reverse = Utf8.size piece.reverse + Utf8.charSize c := by
  rw [List.reverse_cons, Utf8.size_append, Utf8.size_singleton]

/-- At the end of the text a range is left over just when a piece is. -/
theorem rangesOf_last (start : Nat) (piece : Text) :
    (if start < start + Utf8.size piece.reverse then [(start, start + Utf8.size piece.reverse)]
      else []) = rangesOf start (if piece.isEmpty then [] else [piece.reverse]) := by
  cases piece with
  | nil => exact if_neg (Nat.lt_irrefl start)
  | cons c piece =>
      have hpos : start < start + Utf8.size (c :: piece).reverse := by
        have := Utf8.charSize_pos c
        rw [size_reverse_cons]
        omega
      exact if_pos hpos

theorem piecesFrom_eq_append (width count : Nat) (piece : Text) (done : List Text) (text : Text) :
    piecesFrom width count piece done text
      = done.reverse ++ piecesFrom width count piece [] text := by
  induction text generalizing count piece done with
  | nil =>
      rw [piecesFrom, piecesFrom]
      split <;> simp
  | cons c rest ih =>
      rw [piecesFrom, piecesFrom]
      split
      · rw [ih, ih (count + 1) [c] [_]]
        simp
      · exact ih (count + 1) (c :: piece) done

/-- Counting characters while adding up bytes finds the ranges of the pieces. -/
theorem chunkRangesFrom_eq (width count start : Nat) (piece text : Text) :
    chunkRangesFrom width count start (start + Utf8.size piece.reverse) text
      = rangesOf start (piecesFrom width count piece [] text) := by
  induction text generalizing count start piece with
  | nil =>
      rw [chunkRangesFrom, piecesFrom]
      exact rangesOf_last start piece
  | cons c rest ih =>
      rw [chunkRangesFrom, piecesFrom]
      split
      · rw [piecesFrom_eq_append]
        have hnext := ih (count + 1) (start + Utf8.size piece.reverse) [c]
        rw [List.reverse_singleton, Utf8.size_singleton] at hnext
        rw [hnext]
        rfl
      · rw [← ih, size_reverse_cons, Nat.add_assoc]

theorem lineRangesFrom_eq (start : Nat) (line text : Text) :
    lineRangesFrom start (start + Utf8.size line.reverse) text
      = rangesOf start (Text.keptLinesFrom line [] text) := by
  induction text generalizing start line with
  | nil =>
      rw [lineRangesFrom, Text.keptLinesFrom]
      exact rangesOf_last start line
  | cons c rest ih =>
      rw [lineRangesFrom, Text.keptLinesFrom, Nat.add_assoc, ← size_reverse_cons]
      split
      · rw [Text.keptLinesFrom_eq]
        have hnext : lineRangesFrom (start + Utf8.size (c :: line).reverse)
            (start + Utf8.size (c :: line).reverse) rest = _ :=
          ih (start + Utf8.size (c :: line).reverse) []
        rw [hnext]
        rfl
      · exact ih start (c :: line)

theorem ranges_eq (cut : Cut) (text : Text) : cut.ranges text = rangesOf 0 (cut.pieces text) := by
  have hlines : lineRangesFrom 0 0 text = rangesOf 0 (Text.keptLines text) :=
    lineRangesFrom_eq 0 [] text
  cases cut with
  | lines => exact hlines
  | chunks width =>
      rw [ranges, pieces]
      split
      · exact chunkRangesFrom_eq width.toNat 0 0 [] text
      · exact hlines

/-- Between the ends of its range stand the bytes of a piece. -/
theorem map_slice?_rangesOf (front : Text) (pieces : List Text) :
    (rangesOf (Utf8.size front) pieces).map
        (fun range => Utf8.slice? (Utf8.encode (front ++ pieces.flatten)) range.1 range.2)
      = pieces.map fun piece => some (Utf8.encode piece) := by
  induction pieces generalizing front with
  | nil => rfl
  | cons piece pieces ih =>
      have htext : front ++ (piece :: pieces).flatten = front ++ piece ++ pieces.flatten :=
        (List.append_assoc _ _ _).symm
      rw [rangesOf, List.map_cons, List.map_cons, htext, ← Utf8.size_append,
        Utf8.slice?_encode_append, ih]

/-- What is sliced lies between boundaries. -/
theorem isBoundary_of_slice? {bytes part : Bytes} {start stop : Nat}
    (h : Utf8.slice? bytes start stop = some part) :
    Utf8.isBoundary bytes start = true ∧ Utf8.isBoundary bytes stop = true := by
  rw [Utf8.slice?] at h
  split at h
  · rename_i hbounds
    exact hbounds.2
  · cases h

/-- The bytes of a text, cut at the places of its pieces, are the bytes of the pieces. -/
theorem map_slice?_ranges (cut : Cut) (text : Text) :
    (cut.ranges text).map (fun range => Utf8.slice? (Utf8.encode text) range.1 range.2)
      = (cut.pieces text).map fun piece => some (Utf8.encode piece) := by
  have hslices := map_slice?_rangesOf [] (cut.pieces text)
  rw [List.nil_append, flatten_pieces] at hslices
  rw [ranges_eq]
  exact hslices

/-- Every cut is made at a boundary between characters. -/
theorem isBoundary_of_mem_ranges {cut : Cut} {text : Text} {range : Nat × Nat}
    (h : range ∈ cut.ranges text) :
    Utf8.isBoundary (Utf8.encode text) range.1 = true ∧
      Utf8.isBoundary (Utf8.encode text) range.2 = true := by
  have hslice := List.mem_map_of_mem
    (f := fun range => Utf8.slice? (Utf8.encode text) range.1 range.2) h
  rw [map_slice?_ranges] at hslice
  obtain ⟨piece, -, hpiece⟩ := List.mem_map.1 hslice
  exact isBoundary_of_slice? hpiece.symm

/-! ## The pieces of a text -/

/-- What the pieces of a cut look like: pieces of a fixed width, or lines. -/
def IsDivision (cut : Cut) (pieces : List Text) : Prop :=
  if 0 < cut.widthOrZero then Text.IsCut cut.widthOrZero pieces else Text.AreLines pieces

theorem isDivision_pieces (cut : Cut) (text : Text) : cut.IsDivision (cut.pieces text) := by
  rw [IsDivision, pieces_eq]
  split
  · exact Text.isCut_chunks cut.widthOrZero text
  · exact Text.areLines_keptLines text

/-- A text is divided in no other way. -/
theorem IsDivision.eq_pieces {cut : Cut} {pieces : List Text} (h : cut.IsDivision pieces) :
    cut.pieces pieces.flatten = pieces := by
  rw [IsDivision] at h
  rw [pieces_eq]
  split
  · rename_i hwidth
    rw [if_pos hwidth] at h
    exact h.eq_chunks hwidth
  · rename_i hzero
    rw [if_neg hzero] at h
    exact h.eq_keptLines

/-- The last of a text's pieces may be shorter than the others, but it holds a character. -/
theorem length_of_isCut {width : Nat} (hwidth : 0 < width) {pieces : List Text}
    (h : Text.IsCut width pieces) :
    (∀ piece ∈ pieces.dropLast, piece.length = width) ∧
      ∀ last ∈ pieces.getLast?, 1 ≤ last.length ∧ last.length ≤ width := by
  have hmax : max width 1 = width := Nat.max_eq_left hwidth
  constructor
  · intro piece hpiece
    exact (h.length_eq piece hpiece).trans hmax
  · intro last hlast
    have hmem : last ∈ pieces := List.mem_of_getLast? hlast
    exact ⟨List.length_pos_iff.2 (h.ne_nil last hmem), hmax ▸ h.length_le last hmem⟩

/-- Cutting loses nothing. The pieces are the text again, none of them is empty, and the loop
that goes by bytes and counts characters cuts at boundaries between characters only and gives
the bytes of the pieces. With a width all pieces are full but the last one; without, they are
lines, each ended by its only newline, which the last one may lack. No other pieces of the text
have this form. -/
theorem pieces_lose_nothing (cut : Cut) (text : Text) :
    (cut.pieces text).flatten = text ∧
    (∀ piece ∈ cut.pieces text, piece ≠ []) ∧
    -- The places of the cuts.
    (∀ range ∈ cut.ranges text,
      Utf8.isBoundary (Utf8.encode text) range.1 = true ∧
        Utf8.isBoundary (Utf8.encode text) range.2 = true) ∧
    ((cut.ranges text).map fun range => Utf8.slice? (Utf8.encode text) range.1 range.2)
      = ((cut.pieces text).map fun piece => some (Utf8.encode piece)) ∧
    -- The form of the pieces.
    (0 < cut.widthOrZero →
      (∀ piece ∈ (cut.pieces text).dropLast, piece.length = cut.widthOrZero) ∧
        ∀ last ∈ (cut.pieces text).getLast?,
          1 ≤ last.length ∧ last.length ≤ cut.widthOrZero) ∧
    (cut.widthOrZero = 0 →
      (∀ piece ∈ (cut.pieces text).dropLast, piece.getLast? = some '\n') ∧
        ∀ piece ∈ cut.pieces text, '\n' ∉ piece.dropLast) ∧
    ∀ pieces, cut.IsDivision pieces → pieces.flatten = text → pieces = cut.pieces text := by
  have hdivision := cut.isDivision_pieces text
  rw [IsDivision] at hdivision
  refine ⟨cut.flatten_pieces text, ?_, fun range => isBoundary_of_mem_ranges,
    cut.map_slice?_ranges text, ?_, ?_, ?_⟩
  · split at hdivision
    · exact hdivision.ne_nil
    · exact hdivision.ne_nil
  · intro hwidth
    rw [if_pos hwidth] at hdivision
    exact length_of_isCut hwidth hdivision
  · intro hzero
    rw [if_neg (by omega)] at hdivision
    exact ⟨hdivision.getLast?_eq, hdivision.notMem_dropLast⟩
  · rintro pieces hpieces rfl
    exact hpieces.eq_pieces.symm

/-- Five bytes in the first piece of two characters, and a line without its newline. -/
theorem pieces_lose_nothing_snow :
    (width 2).pieces "é☃\n" = [['é', '☃'], ['\n']] ∧
      (width 2).ranges "é☃\n" = [(0, 5), (5, 6)] ∧ 0 < (width 2).widthOrZero ∧
      (∀ piece ∈ ((width 2).pieces "é☃\n").dropLast, piece.length = (width 2).widthOrZero) ∧
      (width 0).pieces "a\n\né" = [['a', '\n'], ['\n'], ['é']] ∧ (width 0).widthOrZero = 0 ∧
      ∀ piece ∈ ((width 0).pieces "a\n\né").dropLast, piece.getLast? = some '\n' := by
  obtain ⟨-, -, -, -, hchunks, -⟩ := pieces_lose_nothing (width 2) "é☃\n"
  obtain ⟨-, -, -, -, -, hlines, -⟩ := pieces_lose_nothing (width 0) "a\n\né"
  exact ⟨by decide, by decide, by decide, (hchunks (by decide)).1, by decide, by decide,
    (hlines (by decide)).1⟩

end QuineRelay.Cut
