import Mathlib.Algebra.BigOperators.Intervals
import Mathlib.Algebra.BigOperators.Ring.Finset
import QuineRelay.Proofs.Relay.Unroll

/-!
# Growth of nested literals

Every literal of a chain spells anew what the literals inside it have spelled. A spelling
with two characters that other literals spell as well would double with each of them. The
literals that give a backslash by its number avoid this. Together they spell seven
characters, the marks, and each of their spellings holds a single mark, its backslash. So
escaping never adds a mark. Only the fixed texts around a literal do, and a source grows by
these texts and by what the marks of its payload cost.

The literals that put a backslash before a backslash are not covered: there the marks do
double.
-/

namespace QuineRelay

/-- The characters that some numeric literal spells. -/
def marks : Text := "\"?\\\n$[@"

/-- Number of marks in a text. -/
def countMarks (text : Text) : Nat :=
  text.countP (· ∈ marks)

/-- Number of bytes that are marks. -/
def countMarkBytes (bytes : Bytes) : Nat :=
  bytes.countP (· ∈ Utf8.encode marks)

theorem countMarks_append (front back : Text) :
    countMarks (front ++ back) = countMarks front + countMarks back :=
  List.countP_append

theorem countMarks_singleton {c : Char} (h : c ∈ marks) : countMarks [c] = 1 := by
  simp [countMarks, h]

/-- A mark is one byte, and a part of no other character. -/
theorem countMarkBytes_encode (text : Text) :
    countMarkBytes (Utf8.encode text) = countMarks text := by
  have hchar (c : Char) : countMarkBytes (Utf8.encodeChar c) = countMarks [c] := by
    by_cases hc : c ∈ marks
    · have hone : ∀ c ∈ marks, countMarkBytes (Utf8.encodeChar c) = 1 := by decide
      rw [hone c hc, countMarks_singleton hc]
    · have hnone : ∀ b ∈ Utf8.encodeChar c, b ∉ Utf8.encode marks := by
        intro b hb hmark
        have hascii : ∀ b ∈ Utf8.encode marks, b.toNat < 0x80 := by decide
        obtain ⟨mark, hmem, hbyte⟩ := List.mem_flatMap.1 hmark
        have hmark_eq := Utf8.eq_ofNat_of_mem_encodeChar hbyte (hascii b hmark)
        have hc_eq := Utf8.eq_ofNat_of_mem_encodeChar hb (hascii b hmark)
        exact hc (hc_eq.trans hmark_eq.symm ▸ hmem)
      have hzero : countMarkBytes (Utf8.encodeChar c) = 0 :=
        List.countP_eq_zero.2 fun b hb => by simpa using hnone b hb
      rw [hzero]
      simp [countMarks, hc]
  induction text with
  | nil => rfl
  | cons c text ih =>
      rw [Utf8.encode_cons, ← List.singleton_append, countMarks_append, ← hchar, ← ih]
      exact List.countP_append

/-! ## One literal -/

/-- A table that spells marks only, each by at most six bytes with at most one mark. -/
def EscapeTable.IsNumeric (table : EscapeTable) : Prop :=
  ∀ entry ∈ table, entry.1 ∈ marks ∧ countMarks entry.2 ≤ 1 ∧ Utf8.size entry.2 ≤ 6

instance (table : EscapeTable) : Decidable table.IsNumeric :=
  inferInstanceAs (Decidable (∀ entry ∈ table, _))

namespace EscapeTable.IsNumeric

variable {table : EscapeTable}

/-- A spelled character is a mark. It is replaced by one mark and at most five more bytes. -/
theorem escapeChar_le (h : table.IsNumeric) (c : Char) :
    countMarks (table.escapeChar c) ≤ countMarks [c] ∧
      Utf8.size (table.escapeChar c) ≤ Utf8.size [c] + 5 * countMarks [c] := by
  rw [escapeChar]
  cases hlookup : table.lookup c with
  | none => exact ⟨Nat.le_refl _, Nat.le_add_right _ _⟩
  | some spelling =>
      obtain ⟨hmark, hmarks, hsize⟩ := h _ (mem_of_lookup hlookup)
      have hone : ∀ c ∈ marks, Utf8.size [c] = 1 := by decide
      rw [Option.getD_some, countMarks_singleton hmark, hone c hmark]
      exact ⟨hmarks, hsize⟩

/-- Escaping adds no mark, and at most five bytes for each mark that is there. -/
theorem escape_le (h : table.IsNumeric) (text : Text) :
    countMarks (table.escape text) ≤ countMarks text ∧
      Utf8.size (table.escape text) ≤ Utf8.size text + 5 * countMarks text := by
  induction text with
  | nil => exact ⟨Nat.le_refl _, Nat.le_refl _⟩
  | cons c text ih =>
      have hescape : table.escape (c :: text) = table.escapeChar c ++ table.escape text :=
        List.flatMap_cons
      obtain ⟨hmarks, hsize⟩ := h.escapeChar_le c
      rw [hescape, ← List.singleton_append, countMarks_append, countMarks_append,
        Utf8.size_append, Utf8.size_append]
      omega

end EscapeTable.IsNumeric

/-- A literal with a numeric table, between short texts with few marks. -/
structure Literal.IsNumeric (literal : Literal) : Prop where
  escapes : literal.escapes.IsNumeric
  marks_le : countMarks literal.opening + countMarks literal.closing ≤ 7
  size_le : Utf8.size literal.opening + Utf8.size literal.closing ≤ 64

instance (literal : Literal) : Decidable literal.IsNumeric :=
  decidable_of_iff (literal.escapes.IsNumeric ∧
      countMarks literal.opening + countMarks literal.closing ≤ 7 ∧
      Utf8.size literal.opening + Utf8.size literal.closing ≤ 64)
    ⟨fun h => ⟨h.1, h.2.1, h.2.2⟩, fun h => ⟨h.1, h.2, h.3⟩⟩

theorem Literal.IsNumeric.write_le {literal : Literal} (h : literal.IsNumeric)
    {language payload source : Text} (hwrite : literal.write language payload = .ok source) :
    countMarks source ≤ countMarks payload + 7 ∧
      Utf8.size source ≤ Utf8.size payload + 64 + 5 * countMarks payload := by
  obtain ⟨body, rfl, -, rfl⟩ := Literal.write_eq_ok_iff.1 hwrite
  obtain ⟨hmarks, hsize⟩ := h.escapes.escape_le body
  have hmarks_around := h.marks_le
  have hsize_around := h.size_le
  simp only [countMarks_append, Utf8.size_append]
  omega

/-- A quoting by one numeric literal. -/
def Quoting.IsNumeric : Quoting → Prop
  | .literal form => form.IsNumeric
  | .pieces _ | .tape _ | .verbatim _ => False

instance : DecidablePred Quoting.IsNumeric
  | .literal form => inferInstanceAs (Decidable form.IsNumeric)
  | .pieces _ | .tape _ | .verbatim _ => isFalse id

theorem Quoting.IsNumeric.write_le {quoting : Quoting} (h : quoting.IsNumeric) {language : Text}
    {payload : Bytes} {source : Text} (hwrite : quoting.write language payload = .ok source) :
    countMarks source ≤ countMarkBytes payload + 7 ∧
      Utf8.size source ≤ payload.length + 64 + 5 * countMarkBytes payload := by
  cases quoting with
  | literal form =>
      obtain ⟨text, htext, hwritten⟩ := bind_eq_ok_iff.1 hwrite
      rw [Quoting.asText_eq_ok_iff.1 htext, countMarkBytes_encode, ← Utf8.size_eq]
      exact Literal.IsNumeric.write_le h hwritten
  | pieces form => exact h.elim
  | tape form => exact h.elim
  | verbatim form => exact h.elim

namespace Language

/-- Whether programs of a language are one literal that gives a backslash by its number. -/
def spellsBackslashByNumber (language : Language) : Bool :=
  match language.quoting with
  | .literal form => (form.escapes.lookup '\\').any fun spelling => spelling.any Char.isDigit
  | _ => false

/-- The standard languages with numeric literals. -/
def numericLiterals : List Language :=
  standard.filter spellsBackslashByNumber

theorem numericLiterals_eq : numericLiterals =
    [rust, tcl, awk, c, cpp, csharp, d, go, javaScript, lua, ocaml, perl, python] :=
  rfl

theorem isNumeric_of_mem_numericLiterals :
    ∀ language ∈ numericLiterals, language.quoting.IsNumeric := by
  rw [numericLiterals_eq]
  decide +kernel

/-- One language adds at most seven marks, and five bytes for each mark of the payload. -/
theorem generate_le_of_mem_numericLiterals {language : Language}
    (h : language ∈ numericLiterals) {payload source : Bytes}
    (hsource : language.generate payload = .ok source) :
    countMarkBytes source ≤ countMarkBytes payload + 7 ∧
      source.length ≤ payload.length + 64 + 5 * countMarkBytes payload := by
  obtain ⟨written, hwritten, rfl⟩ := map_eq_ok_iff.1 hsource
  rw [countMarkBytes_encode, ← Utf8.size_eq]
  exact (isNumeric_of_mem_numericLiterals language h).write_le hwritten

end Language

/-! ## A chain of languages -/

namespace Relay

section

open Finset (range)

variable {languages : List Language} {payload source : Bytes}

/-- The cost of the marks is a sum of one term for each language, so it is linear in what
bounds the number of marks and quadratic in the number of languages. -/
theorem sum_marks_le {count size : Nat} (h : count ≤ size) (n : Nat) :
    5 * ∑ i ∈ range n, (count + 7 * i) ≤ 5 * n * size + 35 * n.choose 2 := by
  have hsum : ∑ i ∈ range n, (count + 7 * i) = n * count + 7 * n.choose 2 := by
    rw [Finset.sum_add_distrib, Finset.sum_const_nat fun _ _ => rfl, Finset.card_range,
      ← Finset.mul_sum, Finset.sum_range_id, Nat.choose_two_right]
  have hcount := Nat.mul_le_mul_left n h
  rw [hsum, Nat.mul_assoc]
  omega

/-- The number of marks bounds what the next language adds, so both bounds are kept
together along the chain. -/
theorem size_le_of_generated
    (hlanguages : ∀ language ∈ languages, language ∈ Language.numericLiterals)
    (hsource : generated payload languages = .ok source) :
    countMarkBytes source ≤ countMarkBytes payload + 7 * languages.length ∧
      source.length ≤ payload.length + 64 * languages.length
        + 5 * ∑ i ∈ range languages.length, (countMarkBytes payload + 7 * i) := by
  induction languages generalizing source with
  | nil =>
      obtain rfl := Except.ok.inj hsource
      simp
  | cons language rest ih =>
      obtain ⟨hlanguage, hrest⟩ := List.forall_mem_cons.1 hlanguages
      rw [generated_cons] at hsource
      obtain ⟨next, hnext, hsource⟩ := bind_eq_ok_iff.1 hsource
      obtain ⟨hmarks, hsize⟩ := ih hrest hnext
      obtain ⟨hmarks', hsize'⟩ := Language.generate_le_of_mem_numericLiterals hlanguage hsource
      rw [List.length_cons, Finset.sum_range_succ]
      omega

/-- Nested numeric literals grow additively. Each language adds at most seven marks to the
source, and pays for the marks that the languages inside it have left. So the size of a
chain is linear in the payload and at most quadratic in the number of languages. -/
theorem nested_literals_grow_additively
    (hlanguages : ∀ language ∈ languages, language ∈ Language.numericLiterals)
    (hsource : generated payload languages = .ok source) :
    countMarkBytes source ≤ countMarkBytes payload + 7 * languages.length ∧
      source.length ≤ payload.length + 64 * languages.length
        + 5 * ∑ i ∈ range languages.length, (countMarkBytes payload + 7 * i) ∧
      source.length ≤ (5 * languages.length + 1) * payload.length + 64 * languages.length
        + 35 * languages.length.choose 2 := by
  obtain ⟨hmarks, hsize⟩ := size_le_of_generated hlanguages hsource
  refine ⟨hmarks, hsize, ?_⟩
  have hcount : countMarkBytes payload ≤ payload.length := List.countP_le_length
  have hsum := sum_marks_le hcount languages.length
  rw [Nat.succ_mul]
  omega

/-- The quote of the payload costs three bytes in the inner literal, and its backslash three
more in the outer one. -/
theorem nested_literals_grow_additively_lua_python :
    ∃ source, generated (Utf8.encode "\"\n") [Language.lua, Language.python] = .ok source ∧
      source = Utf8.encode "io.write(\"print(\\034\\092x22\\034)\\n\")\n" ∧
      countMarkBytes source ≤ 2 + 7 * 2 ∧ source.length ≤ 2 + 64 * 2 + 5 * (2 + (2 + 7)) := by
  have hpython : Language.python.generate (Utf8.encode "\"\n")
      = .ok (Utf8.encode "print(\"\\x22\")\n") :=
    map_eq_ok_iff.2 ⟨_, bind_eq_ok_iff.2 ⟨_, Quoting.asText_eq_ok_iff.2 rfl, rfl⟩, rfl⟩
  have hlua : Language.lua.generate (Utf8.encode "print(\"\\x22\")\n")
      = .ok (Utf8.encode "io.write(\"print(\\034\\092x22\\034)\\n\")\n") :=
    map_eq_ok_iff.2 ⟨_, bind_eq_ok_iff.2 ⟨_, Quoting.asText_eq_ok_iff.2 rfl, rfl⟩, rfl⟩
  have hsource : generated (Utf8.encode "\"\n") [Language.lua, Language.python]
      = .ok (Utf8.encode "io.write(\"print(\\034\\092x22\\034)\\n\")\n") :=
    bind_eq_ok_iff.2 ⟨_, hpython, hlua⟩
  obtain ⟨hmarks, hsize, -⟩ := nested_literals_grow_additively (by decide) hsource
  exact ⟨_, hsource, rfl, Nat.le_trans hmarks (by decide), Nat.le_trans hsize (by decide)⟩

end

end Relay

end QuineRelay
