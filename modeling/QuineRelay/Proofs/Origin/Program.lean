import QuineRelay.Proofs.Origin.Expression
import QuineRelay.Proofs.Placeholder
import QuineRelay.Proofs.Text.Neighbours
import QuineRelay.Proofs.Text.Parentheses

/-!
# What an origin program is made of

The data of a quoting reaches the program in hexadecimal only, so the program is
made of printable characters and newlines, whatever the languages hold. Three more
facts follow from the few texts that it is put together from. Its parentheses are
balanced, as they have to be inside the parentheses of a literal. It nowhere holds a
closing parenthesis with a star after it, which is how the end of the word list
begins, nor the two characters of a code mark.
-/

namespace QuineRelay.Origin

/-! ## Characters -/

/-- The characters of calls: those of the names and marks, and digits. -/
def isCallChar (c : Char) : Bool :=
  ['x', 'p', 'h', '[', ']', '"', '=', '>', '\x7b', '\x7d', ','].contains c
    || (Text.hexDigit? c).isSome

theorem isPlain_of_isCallChar {c : Char} (h : isCallChar c = true) :
    EscapeTable.isPlain c = true := by
  rcases Bool.or_eq_true _ _ ▸ h with hmark | hdigit
  · have hall : ∀ c ∈ ['x', 'p', 'h', '[', ']', '"', '=', '>', '\x7b', '\x7d', ','],
        EscapeTable.isPlain c = true := by
      decide
    exact hall c (List.contains_iff_mem.1 hmark)
  · have hrange := Text.isSome_hexDigit?_iff.1 hdigit
    simp only [EscapeTable.isPlain, Bool.or_eq_true, Bool.and_eq_true, decide_eq_true_eq]
    omega

theorem isCallChar_of_isDigit {c : Char} (h : c.isDigit = true) : isCallChar c = true := by
  simp [isCallChar, Text.hexDigit?, h]

theorem forall_mem_hexCall (digits : HexDigits) : ∀ c ∈ hexCall digits, isCallChar c = true := by
  simp only [hexCall, List.forall_mem_append]
  refine ⟨⟨by decide, fun c hc => ?_⟩, by decide⟩
  rw [isCallChar, digits.2 c hc, Bool.or_true]

theorem forall_mem_hexPair (entry : HexDigits × HexDigits) :
    ∀ c ∈ hexPair entry, isCallChar c = true := by
  simp only [hexPair, List.forall_mem_append]
  exact ⟨⟨forall_mem_hexCall entry.1, by decide⟩, forall_mem_hexCall entry.2⟩

/-- An argument is made of digits and marks, whatever it stands for. -/
theorem Operand.forall_mem_yield (operand : Operand) :
    ∀ c ∈ operand.yield, isCallChar c = true := by
  cases operand with
  | text digits => exact forall_mem_hexCall digits
  | table entries =>
      simp only [yield, List.forall_mem_append]
      refine ⟨⟨by decide, fun c hc => ?_⟩, by decide⟩
      rcases Text.mem_join hc with hcomma | ⟨part, hpart, hc⟩
      · obtain rfl : c = ',' := List.mem_singleton.1 hcomma
        decide
      · obtain ⟨entry, -, rfl⟩ := List.mem_map.1 hpart
        exact forall_mem_hexPair entry c hc
  | number digits => exact fun c hc => isCallChar_of_isDigit (digits.2.2 c hc)

/-- An expression is made of the text of the file and of calls. -/
theorem Expression.forall_mem_yield (expression : Expression) :
    ∀ c ∈ expression.yield, c ∈ selfExpression ∨ isCallChar c = true := by
  induction expression with
  | seed => exact fun c hc => .inl hc
  | call lambda inner operands ih =>
      have hname : ∀ c ∈ lambda.name, isCallChar c = true := by
        cases lambda <;> decide
      simp only [yield, List.forall_mem_append]
      refine ⟨⟨⟨⟨fun c hc => .inr (hname c hc), by decide⟩, ih⟩, fun c hc => .inr ?_⟩, by decide⟩
      obtain ⟨operand, -, hc⟩ := List.mem_flatMap.1 hc
      rcases List.mem_cons.1 hc with rfl | hc
      · decide
      · exact operand.forall_mem_yield c hc

theorem Expression.isPlain_of_mem_yield {expression : Expression} {c : Char}
    (hc : c ∈ expression.yield) : EscapeTable.isPlain c = true := by
  rcases expression.forall_mem_yield c hc with hself | hcall
  · have hall : ∀ c ∈ selfExpression, EscapeTable.isPlain c = true := by decide
    exact hall c hself
  · exact isPlain_of_isCallChar hcall

/-! ## Fixed parts -/

/-- The pairs of characters that no program holds: how the end of the word list
begins, and how a code mark begins. -/
def parted : List (Char × Char) := [(')', '*'), ('<', '?')]

/-- What the fixed parts of a program are: balanced plain text that takes part in
none of these pairs, whatever stands around it. -/
structure IsFixedPart (text : Text) : Prop where
  plain : ∀ c ∈ text, EscapeTable.isPlain c = true
  isSealed : ∀ pair ∈ parted, Text.Sealed pair text
  balanced : Text.Balanced text

instance (text : Text) : Decidable (IsFixedPart text) :=
  decidable_of_iff ((∀ c ∈ text, EscapeTable.isPlain c = true) ∧
      (∀ pair ∈ parted, Text.Sealed pair text) ∧ Text.Balanced text)
    ⟨fun h => ⟨h.1, h.2.1, h.2.2⟩, fun h => ⟨h.1, h.2, h.3⟩⟩

theorem isFixedPart_lambdaHelpers : IsFixedPart lambdaHelpers := by
  decide +kernel

theorem isFixedPart_definition (lambda : Lambda) : IsFixedPart lambda.definition := by
  cases lambda <;> decide +kernel

/-! ## Programs -/

/-- Whatever data the languages hold, a program is plain text. -/
theorem isPlain_of_mem_program {route : Route} {c : Char} (hc : c ∈ program route) :
    EscapeTable.isPlain c = true := by
  revert c
  rw [program_eq]
  simp only [List.forall_mem_append]
  refine ⟨⟨⟨⟨isFixedPart_lambdaHelpers.plain, ?_⟩, by decide⟩, ?_⟩, by decide⟩
  · intro c hc
    obtain ⟨lambda, -, hc⟩ := List.mem_flatMap.1 hc
    exact (isFixedPart_definition lambda).plain c hc
  · intro c hc
    exact Expression.isPlain_of_mem_yield hc

/-- No program holds one of the pairs: outside the fixed parts their second
characters do not occur. -/
theorem isChain_program (route : Route) {pair : Char × Char} (h : pair ∈ parted) :
    (program route).IsChain (Text.Apart pair) := by
  have hmarks : ∀ pair ∈ parted, pair.2 ∉ selfExpression ∧ isCallChar pair.2 = false ∧
      pair.2 ∉ ("$><<" : Text) ∧ pair.2 ∉ ("\n" : Text) := by
    decide
  obtain ⟨hself, hcall, hopening, hclosing⟩ := hmarks pair h
  have hexpression : pair.2 ∉ (Expression.along route.languages).yield := fun hc => by
    rcases Expression.forall_mem_yield _ _ hc with hc | hc
    · exact hself hc
    · exact Bool.false_ne_true (hcall.symm.trans hc)
  rw [program_eq]
  simp only [List.append_assoc]
  refine (isFixedPart_lambdaHelpers.isSealed pair h).isChain_append ?_
  refine Text.Sealed.isChain_append (Text.Sealed.flatMap fun lambda _ =>
    (isFixedPart_definition lambda).isSealed pair h) (Text.isChain_apart_of_notMem ?_)
  simp only [List.mem_append, not_or]
  exact ⟨hopening, hexpression, hclosing⟩

/-- Calls have brackets only, so an expression is as balanced as the text of the file
in it. -/
theorem Expression.balanced_yield (expression : Expression) :
    Text.Balanced expression.yield := by
  induction expression with
  | seed => decide
  | call lambda inner operands ih =>
      have hname : '(' ∉ lambda.name ++ "[" ∧ ')' ∉ lambda.name ++ "[" := by
        cases lambda <;> decide
      have hoperands (c : Char) (hcomma : ',' ≠ c) (hcall : isCallChar c = false) :
          c ∉ operands.flatMap fun operand => ',' :: operand.yield := fun hc => by
        obtain ⟨operand, -, hc⟩ := List.mem_flatMap.1 hc
        rcases List.mem_cons.1 hc with heq | hc
        · exact hcomma heq.symm
        · exact Bool.false_ne_true (hcall.symm.trans (operand.forall_mem_yield c hc))
      rw [yield]
      refine Text.Balanced.append (((Text.Balanced.of_notMem hname.1 hname.2).append ih).append
        (Text.Balanced.of_notMem ?_ ?_)) (by decide)
      · exact hoperands '(' (by decide) (by decide)
      · exact hoperands ')' (by decide) (by decide)

/-- Whatever data the languages hold, a program is balanced. -/
theorem balanced_program (route : Route) : Text.Balanced (program route) := by
  rw [program_eq]
  have hdefinitions (lambdas : List Lambda) : Text.Balanced (lambdas.flatMap Lambda.definition) :=
    Text.Balanced.flatMap fun lambda _ => (isFixedPart_definition lambda).balanced
  have hopening : Text.Balanced "$><<" := by decide
  have hclosing : Text.Balanced "\n" := by decide
  exact (((isFixedPart_lambdaHelpers.balanced.append (hdefinitions _)).append hopening).append
    (Expression.balanced_yield _)).append hclosing

end QuineRelay.Origin
