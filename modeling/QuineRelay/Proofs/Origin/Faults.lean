import QuineRelay.Proofs.Origin.Literals
import QuineRelay.Proofs.Text.Malformed

/-!
# Where a program is at fault

A program whose parentheses are not balanced is refused, with the first fault and its offset.
The check runs over the stored program, and so the offset is one in the stored program: every
byte before the fault that has a placeholder counts twice. It is the offset of the fault in
the program itself just when no such byte stands before it, and a space is enough to move it.

Storing keeps the depth of parentheses, so that the same parenthesis is at fault in both.
-/

namespace QuineRelay.Origin

open Text (Balanced depthAfter?)

/-- Where the parentheses of a text go wrong: at the first one that closes nothing, or else
at the end, when some are still open there. `before` is what stands before the fault. -/
inductive FaultAfter (text : Text) : (before : Text) → EmbedFault → Prop
  | closing {before rest : Text} (hsplit : text = before ++ ')' :: rest)
      (hbefore : Balanced before) : FaultAfter text before .unbalancedClosing
  | unclosed (hle : ∀ front, front <+: text → front.count ')' ≤ front.count '(')
      (hlt : text.count ')' < text.count '(') : FaultAfter text text .unclosedOpening

/-- Number of bytes that are stored as two. -/
def replaced (bytes : Bytes) : Nat :=
  bytes.countP fun b => (Placeholder.code? b).isSome

variable {text before : Text} {fault : EmbedFault}

/-! ## The fault of a text -/

/-- A text that is not balanced is at fault somewhere. -/
theorem exists_faultAfter (h : ¬ Balanced text) : ∃ before fault, FaultAfter text before fault := by
  cases hdepth : depthAfter? 0 text with
  | none =>
      obtain ⟨front, rest, hsplit, hfront⟩ := Text.exists_of_depthAfter?_eq_none hdepth
      exact ⟨front, _, .closing hsplit (Text.balanced_iff.2 hfront)⟩
  | some after =>
      obtain ⟨hle, hcount⟩ := Text.depthAfter?_eq_some_iff.1 hdepth
      simp only [Nat.zero_add] at hle hcount
      have hne : text.count ')' ≠ text.count '(' := fun heq => h ⟨hle, heq⟩
      exact ⟨text, _, .unclosed hle (by omega)⟩

namespace FaultAfter

theorem not_balanced (h : FaultAfter text before fault) : ¬ Balanced text := by
  cases h with
  | closing hsplit hbefore => exact hsplit ▸ hbefore.not_append_cons _
  | unclosed hle hlt => exact fun hbalanced => absurd hbalanced.closed_eq (Nat.ne_of_lt hlt)

/-- A text that closes nothing but what it opened is only at fault at its end. -/
theorem closing_excludes_unclosed {rest : Text} (hsplit : text = before ++ ')' :: rest)
    (hbefore : Balanced before)
    (hle : ∀ front, front <+: text → front.count ')' ≤ front.count '(') : False := by
  obtain ⟨part, hpart, hlt⟩ := hbefore.exists_prefix_count_lt rest
  exact Nat.not_le_of_lt hlt (hle part (hsplit ▸ hpart))

/-- A text has one fault. -/
theorem unique {other : Text} {otherFault : EmbedFault} (h : FaultAfter text before fault)
    (hother : FaultAfter text other otherFault) : other = before ∧ otherFault = fault := by
  cases h with
  | @closing _ rest hsplit hbefore =>
      cases hother with
      | closing hsplit' hbefore' =>
          have hliteral := hsplit ▸ hbefore.literal? rest
          rw [hsplit', hbefore'.literal?] at hliteral
          exact ⟨(Prod.ext_iff.1 (Option.some.inj hliteral)).1, rfl⟩
      | unclosed hle hlt => exact (closing_excludes_unclosed hsplit hbefore hle).elim
  | unclosed hle hlt =>
      cases hother with
      | closing hsplit' hbefore' => exact (closing_excludes_unclosed hsplit' hbefore' hle).elim
      | unclosed hle' hlt' => exact ⟨rfl, rfl⟩

end FaultAfter

/-! ## The fault that is reported -/

/-- The check passes over a text that closes nothing but what it opened. -/
theorem embedFaultFrom?_append {depth after : Nat} (hbackslash : '\\' ∉ before)
    (h : depthAfter? depth before = some after) (offset : Nat) (rest : Text) :
    embedFaultFrom? offset depth (before ++ rest)
      = embedFaultFrom? (offset + Utf8.size before) after rest := by
  induction before generalizing offset depth with
  | nil =>
      obtain rfl := Option.some.inj h
      rfl
  | cons c before ih =>
      rw [List.mem_cons, not_or] at hbackslash
      obtain ⟨hc, hbackslash⟩ := hbackslash
      obtain ⟨next, hnest, hnext⟩ :=
        Option.bind_eq_some_iff.1 (Text.depthAfter?_cons depth c before ▸ h)
      rw [List.cons_append, Utf8.size_cons, ← Nat.add_assoc, ← ih hbackslash hnext]
      by_cases hopening : c = '('
      · subst hopening
        obtain rfl : depth + 1 = next := Option.some.inj hnest
        rfl
      by_cases hclosing : c = ')'
      · subst hclosing
        cases depth with
        | zero => cases hnest
        | succ depth =>
            obtain rfl : depth = next := Option.some.inj hnest
            rfl
      · rw [Text.nest?_of_ne hopening hclosing] at hnest
        obtain rfl : depth = next := Option.some.inj hnest
        conv_lhs => unfold embedFaultFrom?
        rw [if_neg (Ne.symm hc), if_neg hopening, if_neg hclosing]

/-- A text is stored in as many bytes more as bytes of it are replaced. -/
theorem size_stored (text : Text) :
    Utf8.size (stored text) = Utf8.size text + replaced (Utf8.encode text) := by
  have hlength (bytes : Bytes) :
      (Placeholder.substitute bytes).length = bytes.length + replaced bytes := by
    induction bytes with
    | nil => rfl
    | cons b bytes ih =>
        have hb : (Placeholder.substituteByte b).length
            = 1 + if (Placeholder.code? b).isSome then 1 else 0 := by
          rw [Placeholder.substituteByte]
          cases Placeholder.code? b <;> rfl
        have hcons : replaced (b :: bytes)
            = replaced bytes + if (Placeholder.code? b).isSome then 1 else 0 := List.countP_cons
        rw [Placeholder.substitute, List.flatMap_cons, ← Placeholder.substitute, List.length_append,
          ih, hb, hcons, List.length_cons]
        omega
  rw [Utf8.size_eq, Utf8.size_eq, ← hlength, Placeholder.substitute_encode, stored]

/-- The fault of a program is reported, with its offset in the stored program. -/
theorem embed_of_faultAfter (h : FaultAfter text before fault) (width : Nat) :
    embed text width = .error (.unembeddable Language.origin.name
      (Utf8.size before + replaced (Utf8.encode before)) fault) := by
  refine embed_of_fault ?_ width
  rw [← size_stored]
  cases h with
  | @closing _ rest hsplit hbefore =>
      have hstored : stored text = stored before ++ ')' :: stored rest := by
        rw [hsplit, stored, List.flatMap_append, List.flatMap_cons]
        rfl
      have hdepth : depthAfter? 0 (stored before) = some 0 := by
        rw [depthAfter?_stored, Text.balanced_iff.1 hbefore]
      rw [hstored, embedFaultFrom?_append (backslash_notMem_stored before) hdepth, Nat.zero_add]
      rfl
  | unclosed hle hlt =>
      have hdepth : depthAfter? 0 (stored text)
          = some (text.count '(' - text.count ')') := by
        rw [depthAfter?_stored, Text.depthAfter?_eq_some_iff]
        simp only [Nat.zero_add]
        exact ⟨hle, by omega⟩
      have hcheck := embedFaultFrom?_append (backslash_notMem_stored text) hdepth 0 []
      rw [List.append_nil, Nat.zero_add] at hcheck
      rw [hcheck, embedFaultFrom?, if_neg (by omega)]

/-- Nothing is added to the offset of a fault just when no byte before it is replaced. -/
theorem replaced_eq_zero_iff {bytes : Bytes} :
    replaced bytes = 0 ↔ ∀ b ∈ bytes, Placeholder.code? b = none := by
  rw [replaced, List.countP_eq_zero]
  simp only [Bool.not_eq_true, Option.isSome_eq_false_iff, Option.isNone_iff_eq_none]

/-- A program whose parentheses are not balanced is refused at every width, for the one fault
it has: the first parenthesis that closes nothing, or the end of the program when some are
still open there. The offset is that of the fault and, on top of it, the number of bytes
before the fault that have a placeholder; it locates the fault in the program just when there
is no such byte. -/
theorem unbalanced_refused_at_stored_fault (program : Text) (width : Nat)
    (h : ¬ Balanced program) :
    ∃ before fault, FaultAfter program before fault ∧
      (∀ other otherFault, FaultAfter program other otherFault →
        other = before ∧ otherFault = fault) ∧
      embed program width = .error (.unembeddable Language.origin.name
        (Utf8.size before + replaced (Utf8.encode before)) fault) ∧
      (embed program width
          = .error (.unembeddable Language.origin.name (Utf8.size before) fault) ↔
        ∀ b ∈ Utf8.encode before, Placeholder.code? b = none) := by
  obtain ⟨before, fault, hfault⟩ := exists_faultAfter h
  have hembed := embed_of_faultAfter hfault width
  refine ⟨before, fault, hfault, fun _ _ => hfault.unique, hembed, ?_⟩
  rw [hembed, ← replaced_eq_zero_iff]
  constructor
  · intro heq
    injection heq with hoffset
    injection hoffset with _ hoffset _
    omega
  · intro hzero
    rw [hzero, Nat.add_zero]

/-- A space before the parenthesis at fault is stored in two bytes: the fault is at offset
three, and four is reported. -/
theorem unbalanced_refused_at_stored_fault_space :
    ¬ Balanced "p 1)" ∧ Utf8.size "p 1" = 3 ∧
      embed "p 1)" 80 = .error (.unembeddable Language.origin.name 4 .unbalancedClosing) := by
  have hfault : FaultAfter "p 1)" "p 1" .unbalancedClosing :=
    @FaultAfter.closing _ _ [] rfl (by decide)
  obtain ⟨before, fault, -, hunique, hembed, -⟩ :=
    unbalanced_refused_at_stored_fault "p 1)" 80 hfault.not_balanced
  obtain ⟨rfl, rfl⟩ := hunique _ _ hfault
  exact ⟨hfault.not_balanced, by decide, hembed⟩

/-- The offset of a refusal is not always that of the fault in the program. -/
theorem not_forall_refused_at_fault :
    ¬ ∀ (program : Text) (width : Nat), ¬ Balanced program →
      ∃ before fault, FaultAfter program before fault ∧
        embed program width
          = .error (.unembeddable Language.origin.name (Utf8.size before) fault) := by
  intro hall
  have hfault : FaultAfter "p 1)" "p 1" .unbalancedClosing :=
    @FaultAfter.closing _ _ [] rfl (by decide)
  obtain ⟨before, fault, hother, hembed⟩ := hall "p 1)" 80 hfault.not_balanced
  obtain ⟨rfl, rfl⟩ := hfault.unique hother
  rw [embed_of_faultAfter hfault] at hembed
  injection hembed with hoffset
  injection hoffset with _ hoffset _
  exact absurd hoffset (by decide)

end QuineRelay.Origin
