import QuineRelay.Proofs.Origin.Literals

/-!
# The word list is split and joined again

When the origin runs, its word list is not read as text: white space separates the words,
and the words are joined. Every newline that a cut puts into the stored program is lost in
this way, also between a mark and its code, and that is what the form relies on. White space
of the program itself is lost as well, unless it is stored as a placeholder.

The table of placeholders has four of the six bytes that separate words. A vertical tab or a
form feed is stored as it is, and the program that comes back is the program without them.
-/

namespace QuineRelay.Origin

/-! ## Words -/

/-- White space that separates the words of a list: tab, newline, vertical tab, form feed,
carriage return and space. -/
def isWordBreak (b : UInt8) : Bool :=
  (0x09 ≤ b && b ≤ 0x0D) || b == 0x20

/-- The words of a list. -/
def splitWords (list : Bytes) : List Bytes :=
  (list.splitOnP isWordBreak).filter fun word => !word.isEmpty

/-- What stands between the parentheses of the word list in the file `source`. -/
def wordList? (source : Bytes) : Option Bytes := do
  let text ← Utf8.decode? source
  let rest ← Text.afterOpening? (head ++ "eval((%w(") text
  let list ← Text.beforeEnding? (')' :: afterWords ++ foot) rest
  return Utf8.encode list

/-- The program that the words of the file `source` are restored to. -/
def programOfWords? (source : Bytes) : Option (Except Placeholder.Fault Bytes) :=
  (wordList? source).map fun list => Placeholder.restore (splitWords list).flatten

/-- What separates words and has no placeholder: vertical tab and form feed. -/
def unguarded : Text := ['\x0b', '\x0c']

theorem flatten_modifyHead_cons (b : UInt8) {words : List Bytes} (h : words ≠ []) :
    (words.modifyHead (List.cons b)).flatten = b :: words.flatten := by
  cases words with
  | nil => exact absurd rfl h
  | cons word words => rfl

/-- The words put together are the bytes that separate none. -/
theorem flatten_splitWords (list : Bytes) :
    (splitWords list).flatten = list.filter fun b => !isWordBreak b := by
  rw [splitWords, List.flatten_filter_not_isEmpty]
  induction list with
  | nil => rfl
  | cons b list ih =>
      rw [List.splitOnP_cons_eq_if_modifyHead]
      by_cases hb : isWordBreak b = true
      · rw [if_pos hb, List.flatten_cons, List.nil_append, ih,
          List.filter_cons_of_neg (by simp [hb])]
      · rw [if_neg hb, flatten_modifyHead_cons b (List.splitOnP_ne_nil _ _), ih,
          List.filter_cons_of_pos (by simp [hb])]

/-! ## Words of a text -/

/-- A character that separates words. -/
def breaksWords (c : Char) : Bool :=
  (0x09 ≤ c.toNat && c.toNat ≤ 0x0D) || c.toNat == 0x20

theorem isWordBreak_iff {b : UInt8} :
    isWordBreak b = true ↔ (0x09 ≤ b.toNat ∧ b.toNat ≤ 0x0D) ∨ b.toNat = 0x20 := by
  simp only [isWordBreak, Bool.or_eq_true, Bool.and_eq_true, decide_eq_true_eq, beq_iff_eq,
    UInt8.le_iff_toNat_le, ← UInt8.toNat_inj, UInt8.reduceToNat]

theorem breaksWords_iff {c : Char} :
    breaksWords c = true ↔ (0x09 ≤ c.toNat ∧ c.toNat ≤ 0x0D) ∨ c.toNat = 0x20 := by
  simp only [breaksWords, Bool.or_eq_true, Bool.and_eq_true, decide_eq_true_eq, beq_iff_eq]

/-- A byte separates words just when its character does: beyond ASCII there is no such byte. -/
theorem isWordBreak_of_mem_encodeChar {c : Char} {b : UInt8} (h : b ∈ Utf8.encodeChar c) :
    isWordBreak b = breaksWords c := by
  rw [Bool.eq_iff_iff, isWordBreak_iff, breaksWords_iff]
  by_cases hc : c.toNat < 0x80
  · rw [Utf8.encodeChar_of_lt hc, List.mem_singleton] at h
    rw [h, Utf8.toNat_ofNat_byte (by omega)]
  · have hb := Utf8.le_of_mem_encodeChar (Nat.not_lt.1 hc) h
    omega

/-- White space is removed from the bytes of a text just as from the text. -/
theorem filter_encode (text : Text) :
    (Utf8.encode text).filter (fun b => !isWordBreak b)
      = Utf8.encode (text.filter fun c => !breaksWords c) := by
  induction text with
  | nil => rfl
  | cons c text ih =>
      rw [Utf8.encode_cons, List.filter_append, ih]
      by_cases hc : breaksWords c = true
      · rw [List.filter_cons_of_neg (by simp [hc]), List.filter_eq_nil_iff.2, List.nil_append]
        intro b hb
        rw [isWordBreak_of_mem_encodeChar hb, hc]
        decide
      · rw [List.filter_cons_of_pos (by simp [hc]), Utf8.encode_cons, List.filter_eq_self.2]
        intro b hb
        rw [isWordBreak_of_mem_encodeChar hb]
        simpa using hc

/-! ## Words of a stored program -/

/-- Of the characters that separate words, these are stored as they are. -/
theorem breaksWords_iff_of_ne {c : Char} (h : ∀ entry ∈ Placeholder.charCodes, c ≠ entry.1) :
    breaksWords c = true ↔ c ∈ unguarded := by
  have hspace := h (' ', '_') (by decide)
  have hnewline := h ('\n', 'n') (by decide)
  have htab := h ('\t', 't') (by decide)
  have hreturn := h ('\r', 'r') (by decide)
  simp only [ne_eq, ← Char.toNat_inj, Char.reduceToNat] at hspace hnewline htab hreturn
  simp only [breaksWords_iff, unguarded, List.mem_cons, List.not_mem_nil, or_false,
    ← Char.toNat_inj, Char.reduceToNat]
  omega

/-- No placeholder holds white space, and none stands for an unguarded character. -/
theorem filter_substituteChar (c : Char) :
    (Placeholder.substituteChar c).filter (fun a => !breaksWords a)
      = if c ∈ unguarded then [] else Placeholder.substituteChar c := by
  rcases Placeholder.substituteChar_cases c with ⟨hne, heq⟩ | ⟨code, hcode, heq⟩
  · rw [heq]
    by_cases hc : c ∈ unguarded
    · rw [if_pos hc, List.filter_cons_of_neg (by simp [(breaksWords_iff_of_ne hne).2 hc]),
        List.filter_nil]
    · have hkept := mt (breaksWords_iff_of_ne hne).1 hc
      rw [if_neg hc, List.filter_cons_of_pos (by simp [hkept]), List.filter_nil]
  · have hall : ∀ entry ∈ Placeholder.charCodes, entry.1 ∉ unguarded ∧
        ∀ a ∈ [Char.ofNat Placeholder.mark.toNat, entry.2], (!breaksWords a) = true := by
      decide
    obtain ⟨hguarded, hkept⟩ := hall _ hcode
    rw [heq, if_neg hguarded, List.filter_eq_self.2 hkept]

/-- Without white space the stored form is that of the program without its unguarded
characters. -/
theorem filter_stored (program : Text) :
    (stored program).filter (fun c => !breaksWords c)
      = stored (program.filter fun c => c ∉ unguarded) := by
  induction program with
  | nil => rfl
  | cons c program ih =>
      have hcons : stored (c :: program) = Placeholder.substituteChar c ++ stored program := rfl
      rw [hcons, List.filter_append, ih, filter_substituteChar]
      by_cases hc : c ∈ unguarded
      · rw [if_pos hc, List.nil_append, List.filter_cons_of_neg (by simp [hc])]
      · rw [if_neg hc, List.filter_cons_of_pos (by simp [hc])]
        rfl

/-! ## The program that comes back -/

variable {program : Text} {width : Nat} {source : Bytes}

theorem exists_embed (program : Text) (h : Text.Balanced program) (width : Nat) :
    ∃ source, embed program width = .ok source :=
  ⟨_, embed_eq_ok_iff_balanced.2 ⟨h, rfl⟩⟩

theorem wordList?_of_embed (h : embed program width = .ok source) :
    wordList? source = some (Utf8.encode ('\n' :: wordLines width (stored program))) := by
  obtain ⟨-, rfl⟩ := embed_eq_ok_iff_balanced.1 h
  have hfile : head ++ evaluation width (stored program) ++ foot
      = head ++ "eval((%w(" ++ ('\n' :: wordLines width (stored program)
        ++ (')' :: afterWords ++ foot)) := by
    rw [evaluation_eq]
    simp only [List.append_assoc]
  rw [wordList?, Utf8.decode?, Utf8.decode_encode, hfile]
  simp only [Except.toOption, Option.bind_eq_bind, Option.bind_some,
    Text.afterOpening?_eq_some_iff.2 rfl, Text.beforeEnding?_eq_some_iff.2 rfl]
  rfl

theorem programOfWords?_of_embed (h : embed program width = .ok source) :
    programOfWords? source
      = some (.ok (Utf8.encode (program.filter fun c => c ∉ unguarded))) := by
  rw [programOfWords?, wordList?_of_embed h, Option.map_some, flatten_splitWords, filter_encode,
    List.filter_cons_of_neg (by decide), filter_wordLines_eq (by decide), filter_stored, stored,
    ← Placeholder.substitute_encode, Placeholder.restore_substitute]

/-- Splitting the word list at white space, joining the words and restoring them gives the
program back without its vertical tabs and form feeds, at any width of the lines. So the
programs without these characters survive, and no others. -/
theorem program_survives_word_splitting (h : embed program width = .ok source) :
    programOfWords? source
        = some (.ok (Utf8.encode (program.filter fun c => c ∉ unguarded))) ∧
      (programOfWords? source = some (.ok (Utf8.encode program)) ↔
        ∀ c ∈ unguarded, c ∉ program) := by
  have hwords := programOfWords?_of_embed h
  refine ⟨hwords, ?_⟩
  rw [hwords, Option.some.injEq, Except.ok.injEq]
  constructor
  · intro heq c hc hmem
    rw [← Utf8.encode_injective heq] at hmem
    simpa [hc] using (List.mem_filter.1 hmem).2
  · intro hfree
    rw [List.filter_eq_self.2]
    intro c hc
    simpa using fun hmem => hfree c hmem hc

/-- Lines of one character, so that every placeholder is cut in two. -/
theorem program_survives_word_splitting_one :
    (∃ source, embed "p`\t\"\x0b\x0cé \\\"\n" 1 = .ok source ∧
      programOfWords? source = some (.ok (Utf8.encode "p`\t\"é \\\"\n"))) ∧
    ∃ source, embed "p`\t\"é \\\"\n" 1 = .ok source ∧
      programOfWords? source = some (.ok (Utf8.encode "p`\t\"é \\\"\n")) := by
  constructor
  · obtain ⟨source, hsource⟩ := exists_embed "p`\t\"\x0b\x0cé \\\"\n" (by decide) 1
    obtain ⟨hwords, -⟩ := program_survives_word_splitting hsource
    exact ⟨source, hsource, hwords⟩
  · obtain ⟨source, hsource⟩ := exists_embed "p`\t\"é \\\"\n" (by decide) 1
    obtain ⟨-, hsame⟩ := program_survives_word_splitting hsource
    exact ⟨source, hsource, hsame.2 (by decide)⟩

/-- Not every program survives: this one loses its form feed. -/
theorem not_forall_program_survives :
    ¬ ∀ (program : Text) (width : Nat) (source : Bytes), embed program width = .ok source →
      programOfWords? source = some (.ok (Utf8.encode program)) := by
  intro hall
  obtain ⟨source, hsource⟩ := exists_embed "p 1\x0c\n" (by decide) 80
  have hsame := hall _ _ source hsource
  rw [programOfWords?_of_embed hsource, Option.some.injEq, Except.ok.injEq] at hsame
  exact absurd (Utf8.encode_injective hsame) (by decide)

end QuineRelay.Origin
