import QuineRelay.Origin
import QuineRelay.Proofs.Lambda.Argument

/-!
# The expression that the origin prints

The program of an origin ends in one nested expression: calls of the lambdas
around the text of the file itself, with arguments that are strings in
hexadecimal, tables of such strings, or decimal numbers. Here the expression has
a grammar of its own, as trees with the text they yield, and the grammar is
unambiguous: a tree can be read off its text wherever the text ends. So the nested
text determines the calls and their arguments, whatever data the quotings hold.

Each part of the grammar announces itself by its first character. Only a decimal
number does not announce its end; it ends because a comma or a bracket follows.
-/

namespace QuineRelay.Origin

/-! ## The grammar -/

/-- Hexadecimal digits, possibly none. -/
abbrev HexDigits := { digits : Text // ∀ c ∈ digits, (Text.hexDigit? c).isSome = true }

/-- At least one decimal digit. -/
abbrev DecimalDigits := { digits : Text // digits ≠ [] ∧ ∀ c ∈ digits, c.isDigit = true }

/-- A string: a call of the helper that decodes hexadecimal digits. -/
def hexCall (digits : HexDigits) : Text :=
  "h[\"" ++ digits.1 ++ "\"]"

/-- One entry of a table. -/
def hexPair (entry : HexDigits × HexDigits) : Text :=
  hexCall entry.1 ++ "=>" ++ hexCall entry.2

/-- An argument of a call. -/
inductive Operand where
  | text (digits : HexDigits)
  | table (entries : List (HexDigits × HexDigits))
  | number (digits : DecimalDigits)

/-- The text of an argument. -/
def Operand.yield : Operand → Text
  | .text digits => hexCall digits
  | .table entries => "\x7b" ++ Text.join "," (entries.map hexPair) ++ "\x7d"
  | .number digits => digits.1

/-- Calls of lambdas around the text of the file itself. -/
inductive Expression where
  | seed
  | call (lambda : Lambda) (inner : Expression) (operands : List Operand)

namespace Expression

/-- The text of an expression. -/
def yield : Expression → Text
  | .seed => selfExpression
  | .call lambda inner operands =>
    lambda.name ++ "[" ++ inner.yield ++ (operands.flatMap fun operand => ',' :: operand.yield)
      ++ "]"

/-- The calls of an expression, from the outermost to the innermost. -/
def calls : Expression → List Call
  | .seed => []
  | .call lambda inner operands =>
    { lambda := some lambda, arguments := operands.map Operand.yield } :: inner.calls

end Expression

/-! ## Reading is unique -/

/-- A run of characters of one kind is determined when another kind follows. -/
theorem run_append_inj {kind : Char → Bool} {run run' rest rest' : Text}
    (hrun : ∀ c ∈ run, kind c = true) (hrun' : ∀ c ∈ run', kind c = true)
    (hrest : ∀ c ∈ rest.head?, kind c = false) (hrest' : ∀ c ∈ rest'.head?, kind c = false)
    (h : run ++ rest = run' ++ rest') : run = run' ∧ rest = rest' := by
  have htake {run rest : Text} (hrun : ∀ c ∈ run, kind c = true)
      (hrest : ∀ c ∈ rest.head?, kind c = false) : (run ++ rest).takeWhile kind = run := by
    rw [List.takeWhile_append_of_pos hrun]
    cases rest with
    | nil => simp
    | cons c rest => simp [hrest c rfl]
  obtain rfl : run = run' := by
    rw [← htake hrun hrest, h, htake hrun' hrest']
  exact ⟨rfl, List.append_cancel_left h⟩

theorem hexCall_append_inj {digits digits' : HexDigits} {rest rest' : Text}
    (h : hexCall digits ++ rest = hexCall digits' ++ rest') : digits = digits' ∧ rest = rest' := by
  have hquote (rest : Text) :
      ∀ c ∈ (("\"]" : Text) ++ rest).head?, (Text.hexDigit? c).isSome = false := by
    intro c hc
    obtain rfl : '"' = c := Option.some.inj hc
    decide
  simp only [hexCall, List.append_assoc] at h
  obtain ⟨hdigits, h⟩ := run_append_inj digits.2 digits'.2 (hquote rest) (hquote rest')
    (List.append_cancel_left h)
  exact ⟨Subtype.ext hdigits, List.append_cancel_left h⟩

theorem hexPair_append_inj {entry entry' : HexDigits × HexDigits} {rest rest' : Text}
    (h : hexPair entry ++ rest = hexPair entry' ++ rest') : entry = entry' ∧ rest = rest' := by
  simp only [hexPair, List.append_assoc] at h
  obtain ⟨hkey, h⟩ := hexCall_append_inj h
  obtain ⟨hvalue, h⟩ := hexCall_append_inj (List.append_cancel_left h)
  exact ⟨Prod.ext hkey hvalue, h⟩

/-- What may follow a decimal number. -/
def EndsNumber (rest : Text) : Prop :=
  ∀ c ∈ rest.head?, c.isDigit = false

/-- Members that are written after a comma each, up to a closing mark, are
determined when every member is. -/
theorem members_append_inj {α : Type} {written : α → Text} (close : Char) (hcomma : close ≠ ',')
    (hclose : close.isDigit = false)
    (hwritten : ∀ {a b : α} {rest rest' : Text}, EndsNumber rest → EndsNumber rest' →
      written a ++ rest = written b ++ rest' → a = b ∧ rest = rest')
    {as bs : List α} {rest rest' : Text}
    (h : (as.flatMap fun a => ',' :: written a) ++ close :: rest
      = (bs.flatMap fun b => ',' :: written b) ++ close :: rest') :
    as = bs ∧ rest = rest' := by
  have hends (as : List α) (rest : Text) :
      EndsNumber ((as.flatMap fun a => ',' :: written a) ++ close :: rest) := by
    intro c hc
    cases as with
    | nil => exact Option.some.inj hc ▸ hclose
    | cons a as =>
        obtain rfl : ',' = c := Option.some.inj hc
        decide
  induction as generalizing bs with
  | nil =>
      cases bs with
      | nil => exact ⟨rfl, (List.cons.inj h).2⟩
      | cons b bs => exact absurd (List.cons.inj h).1 hcomma
  | cons a as ih =>
      cases bs with
      | nil => exact absurd (List.cons.inj h).1.symm hcomma
      | cons b bs =>
          simp only [List.flatMap_cons, List.cons_append, List.append_assoc, List.cons.injEq,
            true_and] at h
          obtain ⟨rfl, hlater⟩ := hwritten (hends as rest) (hends bs rest') h
          obtain ⟨rfl, rfl⟩ := ih hlater
          exact ⟨rfl, rfl⟩

theorem entries_append_inj {entries entries' : List (HexDigits × HexDigits)} {rest rest' : Text}
    (h : Text.join "," (entries.map hexPair) ++ '\x7d' :: rest
      = Text.join "," (entries'.map hexPair) ++ '\x7d' :: rest') :
    entries = entries' ∧ rest = rest' := by
  cases entries with
  | nil =>
      cases entries' with
      | nil => exact ⟨rfl, (List.cons.inj h).2⟩
      | cons entry' entries' =>
          rw [List.map_cons, Text.join_cons] at h
          cases h
  | cons entry entries =>
      cases entries' with
      | nil =>
          rw [List.map_cons, Text.join_cons] at h
          cases h
      | cons entry' entries' =>
          simp only [List.map_cons, Text.join_cons, List.flatMap_map, List.append_assoc] at h
          obtain ⟨rfl, hlater⟩ := hexPair_append_inj h
          obtain ⟨rfl, rfl⟩ := members_append_inj '\x7d' (by decide) (by decide)
            (fun _ _ h => hexPair_append_inj h) hlater
          exact ⟨rfl, rfl⟩

/-- An argument is determined where no further digit follows. -/
theorem Operand.append_inj {operand operand' : Operand} {rest rest' : Text}
    (hrest : EndsNumber rest) (hrest' : EndsNumber rest')
    (h : operand.yield ++ rest = operand'.yield ++ rest') : operand = operand' ∧ rest = rest' := by
  -- A string begins with `h` and a table with a brace; neither begins a number.
  have hnumber {digits : DecimalDigits} {c : Char} {text after : Text}
      (heq : digits.1 ++ after = c :: text) : c.isDigit = true := by
    obtain ⟨first, digits', hdigits⟩ := List.exists_cons_of_ne_nil digits.2.1
    rw [hdigits] at heq
    exact digits.2.2 c ((List.cons.inj heq).1 ▸ hdigits ▸ List.mem_cons_self)
  cases operand with
  | text digits =>
      cases operand' with
      | text digits' =>
          obtain ⟨rfl, rfl⟩ := hexCall_append_inj h
          exact ⟨rfl, rfl⟩
      | table entries => cases h
      | number digits' => exact absurd (hnumber h.symm) (by decide)
  | table entries =>
      cases operand' with
      | text digits => cases h
      | table entries' =>
          simp only [yield, List.append_assoc] at h
          obtain ⟨rfl, rfl⟩ := entries_append_inj (List.append_cancel_left h)
          exact ⟨rfl, rfl⟩
      | number digits' => exact absurd (hnumber h.symm) (by decide)
  | number digits =>
      cases operand' with
      | text digits' => exact absurd (hnumber h) (by decide)
      | table entries => exact absurd (hnumber h) (by decide)
      | number digits' =>
          obtain ⟨hdigits, rfl⟩ := run_append_inj digits.2.2 digits'.2.2 hrest hrest' h
          exact ⟨congrArg Operand.number (Subtype.ext hdigits), rfl⟩

theorem name_append_inj {lambda lambda' : Lambda} {rest rest' : Text}
    (h : lambda.name ++ rest = lambda'.name ++ rest') : lambda = lambda' ∧ rest = rest' := by
  -- Two different names differ in a character that both have.
  cases lambda <;> cases lambda' <;> first | exact ⟨rfl, List.append_cancel_left h⟩ | cases h

namespace Expression

/-- An expression is determined by its text, wherever the text ends. -/
theorem append_inj {expression expression' : Expression} {rest rest' : Text}
    (h : expression.yield ++ rest = expression'.yield ++ rest') :
    expression = expression' ∧ rest = rest' := by
  induction expression generalizing expression' rest rest' with
  | seed =>
      cases expression' with
      | seed => exact ⟨rfl, List.append_cancel_left h⟩
      | call lambda inner operands => cases lambda <;> cases h
  | call lambda inner operands ih =>
      cases expression' with
      | seed => cases lambda <;> cases h
      | call lambda' inner' operands' =>
          simp only [yield, List.append_assoc] at h
          obtain ⟨rfl, hinner⟩ := name_append_inj h
          obtain ⟨rfl, hoperands⟩ := ih (List.append_cancel_left hinner)
          obtain ⟨rfl, rfl⟩ := members_append_inj ']' (by decide) (by decide)
            Operand.append_inj hoperands
          exact ⟨rfl, rfl⟩

/-- The grammar is unambiguous. -/
theorem yield_injective {expression expression' : Expression}
    (h : expression.yield = expression'.yield) : expression = expression' :=
  (append_inj (congrArg (· ++ []) h)).1

end Expression

/-! ## The expression of a route -/

/-- The digits of a string. -/
def hexDigits (text : Text) : HexDigits :=
  ⟨Text.hexBytes (Utf8.encode text), fun _ hc => Text.isSome_hexDigit?_of_mem_hexBytes hc⟩

/-- The digits of a number. -/
def decimalDigits (n : Nat) : DecimalDigits :=
  ⟨Text.decimal n, Text.decimal_ne_nil n, fun _ hc => Text.isDigit_of_mem_decimal hc⟩

namespace Operand

/-- A string as an argument. -/
def ofText (text : Text) : Operand :=
  .text (hexDigits text)

/-- An escape table as an argument. -/
def ofTable (table : EscapeTable) : Operand :=
  .table (table.map fun entry => (hexDigits [entry.1], hexDigits entry.2))

/-- A count as an argument. -/
def ofNumber (n : Nat) : Operand :=
  .number (decimalDigits n)

/-- The arguments that the call of a quoting has. -/
def ofQuoting : Quoting → List Operand
  | .literal form =>
    [ofText form.opening, ofText form.closing, ofTable form.escapes, ofNumber form.ending.stripped]
  | .pieces form =>
    [ofText form.opening, ofText form.closing, ofText form.itemOpening, ofText form.itemClosing,
      ofText form.separator, ofTable form.escapes, ofNumber form.cut.widthOrZero]
  | .tape form => [ofText form.opening, ofText form.closing]
  | .verbatim _ => []

theorem yield_ofText (text : Text) : (ofText text).yield = Argument.ofText text := rfl

theorem yield_ofTable (table : EscapeTable) : (ofTable table).yield = Argument.ofTable table := by
  rw [ofTable, yield, List.map_map]
  rfl

theorem yield_ofNumber (n : Nat) : (ofNumber n).yield = Text.decimal n := rfl

theorem map_yield_ofQuoting (quoting : Quoting) :
    (ofQuoting quoting).map yield = quoting.call.arguments := by
  cases quoting with
  | literal form =>
      simp only [ofQuoting, List.map_cons, List.map_nil, yield_ofText, yield_ofTable,
        yield_ofNumber]
      rfl
  | pieces form =>
      simp only [ofQuoting, List.map_cons, List.map_nil, yield_ofText, yield_ofTable,
        yield_ofNumber]
      rfl
  | tape form => rfl
  | verbatim form => rfl

end Operand

namespace Expression

/-- The calls of all languages, the last one innermost; a language that calls no
lambda leaves no trace. -/
def along : List Language → Expression
  | [] => .seed
  | language :: rest =>
    match language.call.lambda with
    | some lambda => .call lambda (along rest) (Operand.ofQuoting language.quoting)
    | none => along rest

theorem yield_along (languages : List Language) :
    (along languages).yield =
      languages.foldr (fun language inner => language.call.wrap inner) selfExpression := by
  induction languages with
  | nil => rfl
  | cons language rest ih =>
      rw [along, List.foldr_cons, ← ih, Call.wrap, Call.opening, Call.closing]
      cases hlambda : language.call.lambda with
      | none => simp only [List.nil_append, List.append_nil]
      | some lambda =>
          have hclosing : (Operand.ofQuoting language.quoting).flatMap
                (fun operand => ',' :: operand.yield)
              = language.call.arguments.flatMap fun argument => ',' :: argument := by
            rw [Language.call, ← Operand.map_yield_ofQuoting, List.flatMap_map]
          simp only [yield, hclosing, List.append_assoc]

/-- Read back, the calls are those of the languages, in route order. -/
theorem calls_along (languages : List Language) :
    (along languages).calls
      = (languages.map Language.call).filter fun call => call.lambda.isSome := by
  induction languages with
  | nil => rfl
  | cons language rest ih =>
      rw [along, List.map_cons]
      cases hlambda : language.call.lambda with
      | none => rw [ih, List.filter_cons_of_neg (by simp [hlambda])]
      | some lambda =>
          have hcall : language.call =
              { lambda := some lambda
                arguments := (Operand.ofQuoting language.quoting).map Operand.yield } := by
            rw [Operand.map_yield_ofQuoting, ← hlambda]
            rfl
          rw [calls, ih, List.filter_cons_of_pos (by simp [hlambda]), ← hcall]

end Expression

/-- The lambdas that a program defines are those that its expression calls. -/
theorem lambdas_eq (route : Route) :
    route.lambdas = Lambda.all.filter fun lambda =>
      (Expression.along route.languages).calls.any fun call => call.lambda == some lambda := by
  unfold Route.lambdas
  refine List.filter_congr fun lambda _ => ?_
  rw [Expression.calls_along, List.any_filter, List.any_map]
  refine congrArg route.languages.any (funext fun language => ?_)
  cases hlambda : language.call.lambda with
  | none => simp [hlambda]
  | some lambda' => simp [hlambda]

/-- A program is its helpers, the lambdas it calls, and one expression to print. -/
theorem program_eq (route : Route) :
    program route = lambdaHelpers
      ++ (Lambda.all.filter fun lambda =>
        (Expression.along route.languages).calls.any fun call =>
          call.lambda == some lambda).flatMap Lambda.definition
      ++ "$><<" ++ (Expression.along route.languages).yield ++ "\n" := by
  rw [← lambdas_eq, Expression.yield_along, ← fold_eq_foldr]
  rfl

end QuineRelay.Origin
