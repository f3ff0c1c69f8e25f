import QuineRelay.Proofs.Origin.Program
import QuineRelay.Proofs.Origin.SelfText
import QuineRelay.Proofs.Placeholder.Tokens
import QuineRelay.Proofs.Relay.Stages

/-!
# The program is stored in the origin

The text that `$s` holds carries the whole program. Between the marks of the word
list stands the stored program, cut into lines; without white space it is the
stored program again, and restoring it gives the program. For this the search for
the end of the list may not stop early, at any width of the lines. A cut only
puts a newline between two characters, and never a parenthesis before a star.
-/

namespace QuineRelay.Origin

/-- The words that `$s` lists, with the white space between them. -/
def words? (self : Text) : Option Text :=
  (Text.cutAt? "%w(" self).bind fun opened => (Text.cutAt? ")*\"\"" opened.2).map Prod.fst

/-! ## Lines of the stored program -/

theorem wordLines_nil (width : Nat) : wordLines width [] = [] := by
  simp [wordLines]

theorem wordLines_cons (width : Nat) (c : Char) (rest : Text) :
    wordLines width (c :: rest)
      = (c :: rest.take (width - 1)) ++ '\n' :: wordLines width (rest.drop (width - 1)) := by
  simp [wordLines, Text.chunks_cons]

/-- What drops newlines does not see the lines. -/
theorem filter_wordLines_eq {p : Char → Bool} (hbreak : p '\n' = false) (width : Nat)
    (stored : Text) : (wordLines width stored).filter p = stored.filter p := by
  induction stored using Text.chunk_induction width with
  | nil => rw [wordLines_nil]
  | cons c rest ih =>
      have hline (text : Text) : ('\n' :: text).filter p = text.filter p :=
        List.filter_cons_of_neg (by simp [hbreak])
      rw [wordLines_cons, List.filter_append, hline, ih, ← List.filter_append, List.cons_append,
        List.take_append_drop]

/-- Without white space the lines are the stored program again. -/
theorem filter_wordLines {stored : Text} (h : ∀ c ∈ stored, Text.isBlank c = false) (width : Nat) :
    (wordLines width stored).filter (fun c => !Text.isBlank c) = stored := by
  rw [filter_wordLines_eq (by decide), List.filter_eq_self.2]
  intro c hc
  rw [h c hc, Bool.not_false]

/-- A newline that is put between two characters makes no pair, and takes part in
none. -/
theorem isChain_wordLines {pair : Char × Char} (hpair : pair ∈ parted) {stored : Text}
    (h : stored.IsChain (Text.Apart pair)) (width : Nat) :
    (wordLines width stored).IsChain (Text.Apart pair) := by
  have hall : ∀ pair ∈ parted, Text.Sealed pair ['\n'] := by decide
  have hbreak := hall pair hpair
  induction stored using Text.chunk_induction width with
  | nil =>
      rw [wordLines_nil]
      exact List.isChain_nil
  | cons c rest ih =>
      have hline : (c :: rest.take (width - 1)).IsChain (Text.Apart pair) := h.take (width - 1 + 1)
      have hrest : (rest.drop (width - 1)).IsChain (Text.Apart pair) := h.drop (width - 1 + 1)
      rw [wordLines_cons]
      refine hline.append (hbreak.isChain_append (ih hrest)) fun a _ b hb _ hsecond => ?_
      obtain rfl : '\n' = b := Option.some.inj hb
      exact hbreak.head (congrArg some hsecond)

/-! ## Finding the words -/

/-- The list ends at the mark that was put there. -/
theorem cutAt?_words {words : Text} (h : words.IsChain (Text.Apart (')', '*'))) (back : Text) :
    Text.cutAt? ")*\"\"" (words ++ (")*\"\"" ++ back)) = some (words, back) := by
  refine Text.cutAt?_append fun j hj hfit => ?_
  have hclosed : ¬ [')', '*'] <:+: words ++ [')'] := by
    refine Text.isChain_apart_iff.1 (h.append (List.isChain_singleton _) fun _ _ a ha _ => ?_)
    obtain rfl : ')' = a := Option.some.inj ha
    decide
  have hsplit : (words ++ (")*\"\"" ++ back)).drop j
      = (words ++ [')']).drop j ++ ("*\"\"" ++ back) := by
    have hlength : j ≤ (words ++ [')']).length := by
      rw [List.length_append]
      omega
    rw [← List.drop_append_of_le_length hlength, List.append_assoc]
    rfl
  have hlength : 2 ≤ ((words ++ [')']).drop j).length := by
    rw [List.length_drop, List.length_append, List.length_singleton]
    omega
  -- The beginning of the mark would stand before its own star.
  have hpair : [')', '*'] <+: (words ++ [')']).drop j :=
    List.prefix_of_prefix_length_le (List.IsPrefix.trans (by decide) (hsplit ▸ hfit))
      (List.prefix_append _ _) hlength
  exact hclosed (hpair.isInfix.trans (List.drop_suffix _ _).isInfix)

/-- What stands between the marks of the word list are the lines, after the newline
that opens them. -/
theorem words?_evaluation {stored : Text} (h : stored.IsChain (Text.Apart (')', '*')))
    (width : Nat) :
    words? (evaluation width stored) = some ('\n' :: wordLines width stored) := by
  have hlist : ('\n' :: wordLines width stored).IsChain (Text.Apart (')', '*')) :=
    (isChain_wordLines (by decide) h width).cons fun _ _ hclosing => absurd hclosing (by decide)
  have hhead : ("eval((%w(\n" : Text) = "eval((" ++ ("%w(" ++ ['\n']) := rfl
  have hmark : (")*\"\")" : Text) = ")*\"\"" ++ ")" := rfl
  have hself : evaluation width stored = "eval((" ++ ("%w(" ++ ('\n' :: wordLines width stored
      ++ (")*\"\"" ++ (")" ++ (Placeholder.restorer ++ ")"))))) := by
    unfold evaluation
    rw [hhead, hmark]
    simp only [List.append_assoc, List.cons_append, List.nil_append]
  have hopening : Text.cutAt? "%w(" (evaluation width stored)
      = some (("eval((" : Text), '\n' :: wordLines width stored
        ++ (")*\"\"" ++ (")" ++ (Placeholder.restorer ++ ")")))) := by
    rw [hself]
    exact Text.cutAt?_append_of_notMem (by decide)
  rw [words?, hopening, Option.bind_some, cutAt?_words hlist]
  rfl

/-! ## The stored program -/

/-- A program as it is stored, character by character. -/
def stored (program : Text) : Text :=
  program.flatMap Placeholder.substituteChar

/-- Storing a program never fails: its stored form is text. -/
theorem store_eq (program : Text) : store program = .ok (stored program) := by
  rw [store, Placeholder.substitute_encode, Utf8.decode_encode]
  rfl

/-- No white space is stored, since the white space of a program is replaced. -/
theorem isBlank_of_mem_substituteChar {c : Char} (h : EscapeTable.isPlain c = true) :
    ∀ a ∈ Placeholder.substituteChar c, Text.isBlank a = false := by
  refine Placeholder.forall_mem_substituteChar (fun hne => ?_) (by decide)
  have hspace : c.toNat ≠ 0x20 := fun hc => hne (' ', '_') (by decide) (Char.toNat_inj.1 hc)
  have hnewline : c ≠ '\n' := hne ('\n', 'n') (by decide)
  simp only [EscapeTable.isPlain, Bool.or_eq_true, beq_iff_eq, hnewline, false_or,
    Bool.and_eq_true, decide_eq_true_eq] at h
  simp only [Text.isBlank, Bool.or_eq_false_iff, Bool.and_eq_false_iff, decide_eq_false_iff_not,
    beq_eq_false_iff_ne]
  omega

/-- Storing makes no pair: placeholders take part in none. -/
theorem isChain_stored {pair : Char × Char} (hpair : pair ∈ parted) {program : Text}
    (h : program.IsChain (Text.Apart pair)) : (stored program).IsChain (Text.Apart pair) := by
  have hall : ∀ pair ∈ parted, ∀ entry ∈ Placeholder.charCodes,
      Text.Sealed pair [Char.ofNat Placeholder.mark.toNat, entry.2] := by
    decide
  refine Text.isChain_flatMap (fun c _ => ?_) h
  rcases Placeholder.substituteChar_cases c with ⟨-, heq⟩ | ⟨code, hcode, heq⟩
  · exact .inl heq
  · exact .inr (heq ▸ ⟨List.cons_ne_nil _ _, hall pair hpair _ hcode⟩)

/-- The words that `$s` lists are the stored program, and the stored program
restores to the program. -/
theorem restore_words? (route : Route) (width : Nat) {stored : Text}
    (h : store (program route) = .ok stored) :
    ∃ words, words? (evaluation width stored) = some words ∧
      Placeholder.restore (Utf8.encode (words.filter fun c => !Text.isBlank c))
        = .ok (Utf8.encode (program route)) := by
  rw [store_eq] at h
  obtain rfl := Except.ok.inj h
  have hblank : ∀ c ∈ Origin.stored (program route), Text.isBlank c = false := by
    intro c hc
    obtain ⟨a, ha, hc⟩ := List.mem_flatMap.1 hc
    exact isBlank_of_mem_substituteChar (isPlain_of_mem_program ha) c hc
  have hparted : (')', '*') ∈ parted := by decide
  refine ⟨_, words?_evaluation (isChain_stored hparted (isChain_program route hparted)) width, ?_⟩
  rw [List.filter_cons_of_neg (by decide), filter_wordLines hblank, Origin.stored,
    ← Placeholder.substitute_encode, Placeholder.restore_substitute]

end QuineRelay.Origin

namespace QuineRelay.Relay

/-- The origin of a relay carries the relay. Its text determines the program: the
words that `$s` lists, without white space, restore to it. The program defines
just the lambdas that its expression calls, each once, and the expression is read
in one way only. Its calls, from the outermost to the innermost, are the calls of
the languages in route order, without those that leave the payload as it is. -/
theorem origin_carries_route {settings : Settings} {route : Route} {relay : Relay}
    (h : compose settings route = .ok relay) :
    (∃ source self words, Utf8.decode relay.origin = .ok source ∧
      Origin.selfText? source = some self ∧ Origin.words? self = some words ∧
      Placeholder.restore (Utf8.encode (words.filter fun c => !Text.isBlank c))
        = .ok (Utf8.encode (Origin.program route))) ∧
    ∃ expression : Origin.Expression,
      Origin.program route = lambdaHelpers
        ++ (Lambda.all.filter fun lambda =>
          expression.calls.any fun call => call.lambda == some lambda).flatMap Lambda.definition
        ++ "$><<" ++ expression.yield ++ "\n" ∧
      (∀ other : Origin.Expression, other.yield = expression.yield → other = expression) ∧
      expression.calls = (route.languages.map Language.call).filter fun call =>
        call.lambda.isSome := by
  constructor
  · obtain ⟨source, stages, hembed, -, -, hrelay⟩ := compose_eq_ok_iff.1 h
    obtain ⟨stored, hstored, -, -, rfl⟩ := Origin.embed_eq_ok_iff.1 hembed
    obtain ⟨words, hwords, hrestore⟩ :=
      Origin.restore_words? route settings.lineWidth hstored
    refine ⟨_, Origin.evaluation settings.lineWidth stored, words, ?_,
      Origin.selfText?_eq_some_iff.2 rfl, hwords, hrestore⟩
    rw [origin_eq_of_stages hrelay, Utf8.decode_encode]
  · exact ⟨Origin.Expression.along route.languages, Origin.program_eq route,
      fun _ => Origin.Expression.yield_injective, Origin.Expression.calls_along route.languages⟩

/-- The data of a language may spell the marks of the word list. -/
theorem origin_carries_route_hostile :
    ∃ (hostile : Language) (relay : Relay) (expression : Origin.Expression),
      hostile.quoting
        = .literal ⟨"\\)*\"\"(", "é\n", [('`', "%w("), ('`', []), ('\\', "\t")], .newline⟩ ∧
      compose {} ⟨[hostile, Language.php], List.cons_ne_nil _ _⟩ = .ok relay ∧
      expression.calls = [hostile.call] := by
  let hostile : Language :=
    { toolchain := Language.python.toolchain
      quoting :=
        .literal ⟨"\\)*\"\"(", "é\n", [('`', "%w("), ('`', []), ('\\', "\t")], .newline⟩ }
  have hok : (compose {} ⟨[hostile, Language.php], List.cons_ne_nil _ _⟩).isOk = true := by
    decide +kernel
  obtain ⟨relay, hrelay⟩ := exists_ok_of_isOk hok
  obtain ⟨-, expression, -, -, hcalls⟩ := origin_carries_route hrelay
  exact ⟨hostile, relay, expression, rfl, hrelay, hcalls⟩

end QuineRelay.Relay
