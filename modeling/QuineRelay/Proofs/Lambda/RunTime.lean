import QuineRelay.Proofs.Lambda.Argument
import QuineRelay.Proofs.Quoting.Cut
import QuineRelay.Proofs.Quoting.Written

/-!
# Calls write what quotings write

A call knows its quoting only through the text of its arguments, and it counts,
cuts and subtracts in its own way. It still writes the same source whenever the
quoting writes one: the arguments are read back without loss, and each step of a
lambda agrees with the step of the quoting that it stands for.

A call does not check what a quoting checks, so nothing is claimed about payloads
that the quoting refuses.
-/

namespace QuineRelay

namespace Call

/-- Evaluating a call decodes its arguments first. -/
theorem apply_eq_ok {lambda : Lambda} {expressions : List Text} {arguments : List Argument}
    {input output : Text} (harguments : expressions.mapM Argument.parse = .ok arguments)
    (houtput : evaluate lambda arguments input = some output) :
    apply { lambda := some lambda, arguments := expressions } input = .ok output := by
  refine bind_eq_ok_iff.2 ⟨arguments, harguments, ?_⟩
  simp only [houtput]

/-- A table that went through its expression has the spellings of the original,
the first one of a repeated key included. -/
theorem lookup_entries (table : EscapeTable) (c : Char) :
    (Argument.entries table).lookup [c] = table.lookup c := by
  induction table with
  | nil => rfl
  | cons entry table ih =>
      obtain ⟨key, spelling⟩ := entry
      have hkey : ([c] == [key]) = (c == key) := by
        rw [Bool.eq_iff_iff]
        simp
      rw [Argument.entries, List.map_cons, List.lookup_cons, List.lookup_cons, hkey,
        ← Argument.entries, ih]

/-- So the lambda replaces characters as the literal does. -/
theorem replaceKeys_entries (table : EscapeTable) (text : Text) :
    replaceKeys (Argument.entries table) text = table.escape text := by
  unfold replaceKeys EscapeTable.escape
  simp only [lookup_entries]
  rfl

/-- The strokes between two bytes, counted in whole numbers. -/
theorem stride_eq (last b : UInt8) :
    TapeForm.stride last b =
      (if 0 < (b.toNat : Int) - last.toNat
        then List.replicate ((b.toNat : Int) - last.toNat).toNat '+'
        else List.replicate (-((b.toNat : Int) - last.toNat)).toNat '-') ++ ['.'] := by
  rw [TapeForm.stride]
  split
  · rename_i hle
    rw [UInt8.toNat_sub_of_le _ _ hle]
    rw [UInt8.le_iff_toNat_le] at hle
    rcases Nat.lt_or_eq_of_le hle with hlt | heq
    · have hup : ((b.toNat : Int) - last.toNat).toNat = b.toNat - last.toNat := by omega
      rw [if_pos (by omega), hup]
    · rw [if_neg (by omega), heq]
      simp
  · rename_i hlt
    rw [UInt8.not_le] at hlt
    rw [UInt8.toNat_sub_of_le _ _ (UInt8.le_of_lt hlt)]
    rw [UInt8.lt_iff_toNat_lt] at hlt
    have hdown : (-((b.toNat : Int) - last.toNat)).toNat = last.toNat - b.toNat := by omega
    rw [if_neg (by omega), hdown]

/-- Differences of whole numbers write the same strides as differences of bytes. -/
theorem stridesFrom_eq (last : UInt8) (done : Text) (bytes : Bytes) :
    stridesFrom last.toNat done bytes
      = done.reverse ++ (List.zipWith TapeForm.stride (last :: bytes) bytes).flatten := by
  induction bytes generalizing last done with
  | nil => simp [stridesFrom]
  | cons b rest ih =>
      rw [stridesFrom, ih, List.zipWith_cons_cons, List.flatten_cons, stride_eq]
      split <;> simp

end Call

namespace Literal

theorem parse_arguments (literal : Literal) :
    literal.call.arguments.mapM Argument.parse =
      .ok [.text literal.opening, .text literal.closing, .table (Argument.entries literal.escapes),
        .number literal.ending.stripped] := by
  have hlimit : literal.ending.stripped < Text.wordLimit := by
    cases literal.ending <;> decide
  simp only [call, List.mapM_cons, List.mapM_nil, Argument.parse_ofText, Argument.parse_ofTable,
    Argument.parse_decimal hlimit]
  rfl

/-- Counting characters off the end takes off what the ending strips. -/
theorem take_of_strip {ending : Ending} {language payload body : Text}
    (h : ending.strip language payload = .ok body) :
    ending.stripped ≤ payload.length ∧ payload.take (payload.length - ending.stripped) = body := by
  obtain rfl := Ending.strip_eq_ok_iff.1 h
  have hlength : ending.stripped = ending.appended.length := by
    cases ending <;> rfl
  rw [hlength, List.length_append]
  exact ⟨Nat.le_add_left _ _, by rw [Nat.add_sub_cancel, List.take_left]⟩

/-- The call of a literal writes what the literal writes. -/
theorem apply_of_write {literal : Literal} {language payload source : Text}
    (h : literal.write language payload = .ok source) :
    literal.call.apply payload = .ok source := by
  obtain ⟨body, hpayload, -, rfl⟩ := write_eq_ok_iff.1 h
  have hstrip : literal.ending.strip language payload = .ok body :=
    Ending.strip_eq_ok_iff.2 hpayload
  obtain ⟨hdropped, hbody⟩ := take_of_strip hstrip
  refine Call.apply_eq_ok literal.parse_arguments ?_
  simp only [Call.evaluate, if_pos hdropped, hbody, Call.replaceKeys_entries]

end Literal

namespace Pieces

theorem parse_arguments (pieces : Pieces) :
    pieces.call.arguments.mapM Argument.parse =
      .ok [.text pieces.opening, .text pieces.closing, .text pieces.itemOpening,
        .text pieces.itemClosing, .text pieces.separator, .table (Argument.entries pieces.escapes),
        .number pieces.cut.widthOrZero] := by
  have hlimit : pieces.cut.widthOrZero < Text.wordLimit := by
    cases pieces.cut with
    | lines => decide
    | chunks width => exact width.toNat_lt
  simp only [call, List.mapM_cons, List.mapM_nil, Argument.parse_ofText, Argument.parse_ofTable,
    Argument.parse_decimal hlimit]
  rfl

/-- The call of pieces writes what the pieces write. -/
theorem apply_of_write {pieces : Pieces} {language payload source : Text}
    (h : pieces.write language payload = .ok source) : pieces.call.apply payload = .ok source := by
  obtain ⟨-, rfl⟩ := write_eq_ok_iff.1 h
  refine Call.apply_eq_ok pieces.parse_arguments ?_
  simp only [Call.evaluate, Call.replaceKeys_entries, Cut.pieces_eq]
  rfl

end Pieces

namespace TapeForm

theorem parse_arguments (form : TapeForm) :
    form.call.arguments.mapM Argument.parse = .ok [.text form.opening, .text form.closing] := by
  simp only [call, List.mapM_cons, List.mapM_nil, Argument.parse_ofText]
  rfl

theorem stridesFrom_eq_body (payload : Bytes) : Call.stridesFrom 0 [] payload = body payload :=
  Call.stridesFrom_eq 0 [] payload

/-- The call of a tape form writes what the form writes. -/
theorem apply_write (form : TapeForm) (payload : Text) :
    form.call.apply payload = .ok (form.write (Utf8.encode payload)) := by
  refine Call.apply_eq_ok form.parse_arguments ?_
  rw [Call.evaluate, stridesFrom_eq_body]
  rfl

end TapeForm

namespace Quoting

/-- The call of a quoting writes what the quoting writes. -/
theorem apply_of_write {quoting : Quoting} {language payload source : Text}
    (h : quoting.write language (Utf8.encode payload) = .ok source) :
    quoting.call.apply payload = .ok source := by
  have hpayload {text : Text} (htext : asText language (Utf8.encode payload) = .ok text) :
      text = payload :=
    (Utf8.encode_injective (asText_eq_ok_iff.1 htext)).symm
  cases quoting with
  | literal form =>
      obtain ⟨text, htext, hwrite⟩ := bind_eq_ok_iff.1 h
      exact form.apply_of_write (hpayload htext ▸ hwrite)
  | pieces form =>
      obtain ⟨text, htext, hwrite⟩ := bind_eq_ok_iff.1 h
      exact form.apply_of_write (hpayload htext ▸ hwrite)
  | tape form =>
      obtain rfl := Except.ok.inj h
      exact form.apply_write payload
  | verbatim form =>
      obtain ⟨text, htext, hwrite⟩ := bind_eq_ok_iff.1 h
      obtain ⟨-, rfl⟩ := Verbatim.write_eq_ok_iff.1 hwrite
      rw [hpayload htext]
      rfl

/-- Every argument that a quoting hands to its lambda can be read. -/
theorem exists_parse_of_mem_arguments (quoting : Quoting) :
    ∀ expression ∈ quoting.call.arguments,
      ∃ argument, Argument.parse expression = .ok argument := by
  cases quoting with
  | literal form => exact exists_ok_of_mapM form.parse_arguments
  | pieces form => exact exists_ok_of_mapM form.parse_arguments
  | tape form => exact exists_ok_of_mapM form.parse_arguments
  | verbatim form => exact fun expression h => nomatch h

/-- A call writes at run time whatever its quoting writes. All its arguments can
be read, and each step of a lambda does what the step of the quoting does: the
trimming of an ending, the replacing of characters by a table that went through
its expression, the cutting into pieces and the counting of strokes. -/
theorem call_writes_alike (quoting : Quoting) :
    (∀ expression ∈ quoting.call.arguments,
      ∃ argument, Argument.parse expression = .ok argument) ∧
    (∀ language payload source : Text,
      quoting.write language (Utf8.encode payload) = .ok source →
        quoting.call.apply payload = .ok source) ∧
    (∀ (ending : Ending) (language payload body : Text),
      ending.strip language payload = .ok body →
        ending.stripped ≤ payload.length
          ∧ payload.take (payload.length - ending.stripped) = body) ∧
    (∀ table : EscapeTable, ∃ entries,
      Argument.parse (Argument.ofTable table) = .ok (.table entries)
        ∧ ∀ text, Call.replaceKeys entries text = table.escape text) ∧
    (∀ (cut : Cut) (text : Text),
      cut.pieces text =
        if 0 < cut.widthOrZero then Text.chunks cut.widthOrZero text else Text.keptLines text) ∧
    ∀ payload : Bytes, Call.stridesFrom 0 [] payload = TapeForm.body payload := by
  refine ⟨quoting.exists_parse_of_mem_arguments, fun _ _ _ h => apply_of_write h,
    fun _ _ _ _ h => Literal.take_of_strip h, fun table => ?_, Cut.pieces_eq,
    TapeForm.stridesFrom_eq_body⟩
  exact ⟨Argument.entries table, Argument.parse_ofTable table, Call.replaceKeys_entries table⟩

/-- A key that is repeated and an empty spelling are no obstacle: both sides take
the first spelling of `é` and drop every `b`. -/
theorem call_writes_alike_repeated_key :
    (literal ⟨"<", ">", [('é', "1"), ('é', "2"), ('b', [])], .newline⟩).write "L"
        (Utf8.encode "abé\n") = .ok "<a1>" ∧
      (literal ⟨"<", ">", [('é', "1"), ('é', "2"), ('b', [])], .newline⟩).call.apply "abé\n"
        = .ok "<a1>" := by
  have hwrite : (literal ⟨"<", ">", [('é', "1"), ('é', "2"), ('b', [])], .newline⟩).write "L"
      (Utf8.encode "abé\n") = .ok "<a1>" := by
    refine bind_eq_ok_iff.2 ⟨"abé\n", asText_eq_ok_iff.2 rfl, ?_⟩
    exact Literal.write_eq_ok_iff.2 ⟨"abé", by decide, by decide, by decide⟩
  exact ⟨hwrite, (call_writes_alike _).2.1 _ _ _ hwrite⟩

end Quoting

end QuineRelay
