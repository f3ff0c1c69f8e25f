import QuineRelay.Proofs.Origin.Stored
import QuineRelay.Proofs.Text.Parentheses

/-!
# The literals of the origin close where they should

Two literals of an origin file are opened by a parenthesis, one inside the other:
the text that `$s` holds, and the list of words in it. What is checked before the
file is written are two of its parts, the stored program and the restorer, each
alone. Storing a program replaces its white space and its backslashes, and cutting
it into lines adds newlines; neither touches a parenthesis. So the check accepts the
balanced programs and no others, whatever the width of the lines, and then each of
the texts in parentheses is balanced.
-/

namespace QuineRelay.Origin

open Text (Balanced depthAfter? literal? IsCut)

/-! ## The check -/

/-- The check passes a text without backslashes that ends at depth zero. -/
theorem embedFaultFrom?_eq_none_iff (offset : Nat) {depth : Nat} {text : Text} :
    embedFaultFrom? offset depth text = none ↔ '\\' ∉ text ∧ depthAfter? depth text = some 0 := by
  fun_induction embedFaultFrom? offset depth text with
  | case1 => simp
  | case2 offset depth hdepth => simp [hdepth]
  | case3 => simp
  | case4 offset depth rest _ ih =>
      rw [ih, List.mem_cons, Text.depthAfter?_cons]
      simp [Text.nest?]
  | case5 => simp [Text.depthAfter?_cons, Text.nest?]
  | case6 offset rest depth _ _ ih =>
      rw [ih, List.mem_cons, Text.depthAfter?_cons]
      simp [Text.nest?]
  | case7 offset depth c rest hbackslash hopening hclosing ih =>
      rw [ih, List.mem_cons, Text.depthAfter?_cons, Text.nest?_of_ne hopening hclosing]
      simp [Ne.symm hbackslash]

/-- Without a backslash only parentheses can be at fault. -/
theorem fault_of_embedFaultFrom? {offset depth at' : Nat} {fault : EmbedFault} {text : Text}
    (hbackslash : '\\' ∉ text) (h : embedFaultFrom? offset depth text = some (at', fault)) :
    fault = .unbalancedClosing ∨ fault = .unclosedOpening := by
  fun_induction embedFaultFrom? offset depth text with
  | case1 => cases h
  | case2 =>
      cases h
      exact .inr rfl
  | case3 => exact absurd List.mem_cons_self hbackslash
  | case4 offset depth rest _ ih => exact ih (List.not_mem_of_not_mem_cons hbackslash) h
  | case5 =>
      cases h
      exact .inl rfl
  | case6 offset rest depth _ _ ih => exact ih (List.not_mem_of_not_mem_cons hbackslash) h
  | case7 offset depth c rest _ _ _ ih => exact ih (List.not_mem_of_not_mem_cons hbackslash) h

theorem checkEmbeddable_eq_ok_iff {text : Text} :
    checkEmbeddable text = .ok () ↔ '\\' ∉ text ∧ Balanced text := by
  rw [Text.balanced_iff, ← embedFaultFrom?_eq_none_iff 0, checkEmbeddable]
  split
  · rename_i h
    simp [h]
  · rename_i h
    simp [h]

/-! ## The stored program -/

/-- What a word list cannot hold is not stored. -/
theorem notMem_stored {c : Char} {b : UInt8} (hc : Utf8.encodeChar c = [b])
    (hrisky : b ∈ Placeholder.risky) (program : Text) : c ∉ stored program := by
  intro hstored
  have hb : b ∈ Utf8.encode (stored program) :=
    List.mem_flatMap.2 ⟨c, hstored, hc ▸ List.mem_cons_self⟩
  rw [stored, ← Placeholder.substitute_encode] at hb
  exact Placeholder.notMem_risky_of_mem_substitute b hb hrisky

theorem backslash_notMem_stored (program : Text) : '\\' ∉ stored program :=
  notMem_stored (b := 0x5C) rfl (by decide) program

theorem newline_notMem_stored (program : Text) : '\n' ∉ stored program :=
  notMem_stored (b := 0x0A) rfl (by decide) program

/-- Parentheses are stored as they are, and no placeholder holds one. -/
theorem depthAfter?_stored (depth : Nat) (program : Text) :
    depthAfter? depth (stored program) = depthAfter? depth program := by
  refine Text.depthAfter?_flatMap (fun c _ depth => ?_) depth
  rcases Placeholder.substituteChar_cases c with ⟨-, heq⟩ | ⟨code, hcode, heq⟩
  · rw [heq, Text.depthAfter?_cons]
    exact Option.bind_fun_some _
  · have hall : ∀ entry ∈ Placeholder.charCodes, entry.1 ≠ '(' ∧ entry.1 ≠ ')' ∧
        '(' ∉ [Char.ofNat Placeholder.mark.toNat, entry.2] ∧
        ')' ∉ [Char.ofNat Placeholder.mark.toNat, entry.2] := by
      decide
    obtain ⟨hopening, hclosing, hcodes⟩ := hall _ hcode
    rw [heq, Text.depthAfter?_of_notMem hcodes.1 hcodes.2, Text.nest?_of_ne hopening hclosing]

theorem balanced_stored_iff {program : Text} : Balanced (stored program) ↔ Balanced program := by
  rw [Text.balanced_iff, Text.balanced_iff, depthAfter?_stored]

theorem checkEmbeddable_restorer : checkEmbeddable Placeholder.restorer = .ok () := by
  rw [checkEmbeddable, show embedFaultFrom? 0 0 Placeholder.restorer = none by decide]

/-- A program is embedded just when it is balanced. -/
theorem embed_eq_ok_iff_balanced {program : Text} {width : Nat} {source : Bytes} :
    embed program width = .ok source ↔
      Balanced program ∧
        source = Utf8.encode (head ++ evaluation width (stored program) ++ foot) := by
  rw [embed_eq_ok_iff]
  constructor
  · rintro ⟨text, hstored, hcheck, -, hsource⟩
    obtain rfl : stored program = text := Except.ok.inj ((store_eq program).symm.trans hstored)
    exact ⟨balanced_stored_iff.1 (checkEmbeddable_eq_ok_iff.1 hcheck).2, hsource⟩
  · rintro ⟨hbalanced, hsource⟩
    have hcheck : checkEmbeddable (stored program) = .ok () :=
      checkEmbeddable_eq_ok_iff.2
        ⟨backslash_notMem_stored program, balanced_stored_iff.2 hbalanced⟩
    exact ⟨stored program, store_eq program, hcheck, checkEmbeddable_restorer, hsource⟩

/-- The program of every route is embedded. -/
theorem embed_program (route : Route) (width : Nat) :
    embed (program route) width
      = .ok (Utf8.encode (head ++ evaluation width (stored (program route)) ++ foot)) :=
  embed_eq_ok_iff_balanced.2 ⟨balanced_program route, rfl⟩

/-- A fault that the check finds in the stored program is reported. -/
theorem embed_of_fault {program : Text} {offset : Nat} {fault : EmbedFault}
    (h : embedFaultFrom? 0 0 (stored program) = some (offset, fault)) (width : Nat) :
    embed program width = .error (.unembeddable Language.origin.name offset fault) := by
  have hcheck : checkEmbeddable (stored program)
      = .error (.unembeddable Language.origin.name offset fault) := by
    rw [checkEmbeddable, h]
  rw [embed, store_eq]
  simp only [bind, Except.bind, hcheck]

/-- A program that is refused has a parenthesis at fault. -/
theorem fault_of_embed {program : Text} {width : Nat} {error : GenerationError}
    (h : embed program width = .error error) :
    ∃ offset fault, error = .unembeddable Language.origin.name offset fault ∧
      (fault = .unbalancedClosing ∨ fault = .unclosedOpening) := by
  cases hfault : embedFaultFrom? 0 0 (stored program) with
  | none =>
      have hcheck : checkEmbeddable (stored program) = .ok () := by
        rw [checkEmbeddable, hfault]
      have hbalanced := balanced_stored_iff.1 (checkEmbeddable_eq_ok_iff.1 hcheck).2
      rw [embed_eq_ok_iff_balanced.2 ⟨hbalanced, rfl⟩] at h
      cases h
  | some found =>
      obtain ⟨offset, fault⟩ := found
      refine ⟨offset, fault, ?_, fault_of_embedFaultFrom? (backslash_notMem_stored program) hfault⟩
      rw [embed_of_fault hfault] at h
      exact (Except.error.inj h).symm

/-! ## The texts in parentheses -/

/-- Cutting into lines keeps the depth. -/
theorem depthAfter?_wordLines (depth width : Nat) (stored : Text) :
    depthAfter? depth (wordLines width stored) = depthAfter? depth stored := by
  induction stored using Text.chunk_induction width generalizing depth with
  | nil => rw [wordLines_nil]
  | cons c rest ih =>
      have hsplit : c :: rest = (c :: rest.take (width - 1)) ++ rest.drop (width - 1) := by
        rw [List.cons_append, List.take_append_drop]
      have hbreak (depth : Nat) (text : Text) :
          depthAfter? depth ('\n' :: text) = depthAfter? depth text := rfl
      rw [wordLines_cons, Text.depthAfter?_append]
      simp only [hbreak, ih]
      rw [← Text.depthAfter?_append, ← hsplit]

/-- What follows the list of words, after the parenthesis that closes it. -/
def afterWords : Text := "*\"\")" ++ Placeholder.restorer ++ ")"

theorem evaluation_eq (width : Nat) (stored : Text) :
    evaluation width stored
      = "eval((%w(" ++ (('\n' :: wordLines width stored) ++ ')' :: afterWords) := by
  have hhead : ("eval((%w(\n" : Text) = ("eval((%w(" : Text) ++ ['\n'] := rfl
  have hmiddle : (")*\"\")" : Text) = ')' :: ("*\"\")" : Text) := rfl
  unfold evaluation afterWords
  rw [hhead, hmiddle]
  simp only [List.append_assoc, List.cons_append, List.nil_append]

section

variable {program : Text}

theorem balanced_wordLines (h : Balanced program) (width : Nat) :
    Balanced ('\n' :: wordLines width (stored program)) := by
  rw [Text.balanced_iff, ← depthAfter?_stored] at h
  rw [Text.balanced_iff, Text.depthAfter?_cons, Text.nest?_of_ne (by decide) (by decide),
    Option.bind_some, depthAfter?_wordLines, h]

theorem balanced_evaluation (h : Balanced program) (width : Nat) :
    Balanced (evaluation width (stored program)) := by
  have hopening : depthAfter? 0 "eval((%w(" = some 3 := by decide
  have hafter : depthAfter? 3 (')' :: afterWords) = some 0 := by decide
  rw [Text.balanced_iff, evaluation_eq, Text.depthAfter?_append, hopening, Option.bind_some,
    Text.depthAfter?_append, (balanced_wordLines h width).depthAfter?, Option.bind_some, hafter]

end

theorem mem_wordLines {width : Nat} {stored : Text} {c : Char} (h : c ∈ wordLines width stored) :
    c = '\n' ∨ c ∈ stored := by
  obtain ⟨line, hline, hc⟩ := List.mem_flatMap.1 h
  rcases List.mem_append.1 hc with hc | hc
  · rw [← Text.flatten_chunks width stored]
    exact .inr (List.mem_flatten.2 ⟨line, hline, hc⟩)
  · exact .inl (List.mem_singleton.1 hc)

theorem backslash_notMem_file (program : Text) (width : Nat) :
    '\\' ∉ head ++ evaluation width (stored program) ++ foot := by
  have hrestorer := (checkEmbeddable_eq_ok_iff.1 checkEmbeddable_restorer).1
  have hlines : '\\' ∉ wordLines width (stored program) := fun hc => by
    rcases mem_wordLines hc with hnewline | hstored
    · exact absurd hnewline (by decide)
    · exact backslash_notMem_stored program hstored
  unfold evaluation
  simp only [List.mem_append, not_or]
  refine ⟨⟨?_, ⟨⟨⟨?_, hlines⟩, ?_⟩, hrestorer⟩, ?_⟩, ?_⟩
  all_goals decide

/-- The literals of the origin close where they should. Every balanced program is
embedded, at any width, and no other; a parenthesis is all that can be at fault. In
the file, the literal after the head holds the text of `$s` and ends at the last
parenthesis, and the literal inside it holds the lines of the stored program and ends
at the parenthesis after them. -/
theorem literals_close_where_written (program : Text) (width : Nat) :
    ((∃ source, embed program width = .ok source) ↔ Balanced program) ∧
    (∀ error, embed program width = .error error →
      ∃ offset fault, error = .unembeddable Language.origin.name offset fault ∧
        fault ≠ .backslash ∧ fault ≠ .notText) ∧
    ∀ source, embed program width = .ok source →
      ∃ text self lines, Utf8.decode source = .ok text ∧ '\\' ∉ text ∧
        selfText? text = some self ∧
        (Text.afterOpening? head text).bind literal? = some (self, ['\n']) ∧
        (Text.afterOpening? (head ++ "eval((%w(") text).bind literal?
          = some ('\n' :: lines.flatMap (fun line => line ++ ['\n']), afterWords ++ foot) ∧
        Utf8.encode lines.flatten = Placeholder.substitute (Utf8.encode program) ∧
        '\n' ∉ lines.flatten ∧ IsCut width lines := by
  refine ⟨⟨?_, ?_⟩, ?_, ?_⟩
  · rintro ⟨source, hsource⟩
    exact (embed_eq_ok_iff_balanced.1 hsource).1
  · exact fun hbalanced => ⟨_, embed_eq_ok_iff_balanced.2 ⟨hbalanced, rfl⟩⟩
  · intro error herror
    obtain ⟨offset, fault, herror, hfault⟩ := fault_of_embed herror
    refine ⟨offset, fault, herror, ?_⟩
    rcases hfault with rfl | rfl <;> decide
  · intro source hsource
    obtain ⟨hbalanced, rfl⟩ := embed_eq_ok_iff_balanced.1 hsource
    have hflatten : (Text.chunks width (stored program)).flatten = stored program :=
      Text.flatten_chunks width (stored program)
    refine ⟨_, evaluation width (stored program), Text.chunks width (stored program),
      Utf8.decode_encode _, backslash_notMem_file program width, selfText?_eq_some_iff.2 rfl,
      ?_, ?_, ?_, ?_, Text.isCut_chunks width _⟩
    · rw [List.append_assoc, Text.afterOpening?_eq_some_iff.2 rfl, Option.bind_some]
      exact (balanced_evaluation hbalanced width).literal? ['\n']
    · rw [evaluation_eq, ← List.append_assoc, List.append_assoc _ _ foot,
        Text.afterOpening?_eq_some_iff.2 rfl, Option.bind_some, List.append_assoc]
      exact (balanced_wordLines hbalanced width).literal? (afterWords ++ foot)
    · rw [hflatten, Placeholder.substitute_encode, stored]
    · rw [hflatten]
      exact newline_notMem_stored program

/-- A program with a space, a backslash and a newline, stored in lines of three. An open
parenthesis is refused at every width. -/
theorem literals_close_where_written_three :
    (∃ source text lines, embed "p (\"é\\\")\n" 3 = .ok source ∧ Utf8.decode source = .ok text ∧
      (Text.afterOpening? (head ++ "eval((%w(") text).bind literal?
        = some ('\n' :: lines.flatMap (fun line => line ++ ['\n']), afterWords ++ foot) ∧
      lines.flatten = ("p`_(\"é`/\")`n" : Text) ∧ IsCut 3 lines) ∧
    ∀ width, ¬ ∃ source, embed "p (" width = .ok source := by
  constructor
  · obtain ⟨⟨-, hembed⟩, -, hliterals⟩ := literals_close_where_written "p (\"é\\\")\n" 3
    obtain ⟨source, hsource⟩ := hembed (by decide)
    obtain ⟨text, self, lines, htext, -, -, -, hwords, hlines, -, hcut⟩ := hliterals source hsource
    refine ⟨source, text, lines, hsource, htext, hwords, Utf8.encode_injective ?_, hcut⟩
    rw [hlines]
    decide
  · intro width hsource
    obtain ⟨⟨hbalanced, -⟩, -, -⟩ := literals_close_where_written "p (" width
    exact absurd (hbalanced hsource).closed_eq (by decide)

end QuineRelay.Origin
