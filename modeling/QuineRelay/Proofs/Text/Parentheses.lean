import QuineRelay.Text.Basic

/-!
# Balanced parentheses

A literal of the origin's language that is opened by a parenthesis ends at the
parenthesis that closes it, where each opening parenthesis inside nests one level
deeper. A balanced text can stand in such a literal, and the literal ends right
after it.

Balance is a condition on counts. The depth after a text, which scanning computes,
is the form that proofs use: it passes through texts one after the other.
-/

namespace QuineRelay.Text

/-- No beginning of the text closes more parentheses than it opens, and the whole
text closes as many as it opens. -/
structure Balanced (text : Text) : Prop where
  closed_le : ∀ front, front <+: text → front.count ')' ≤ front.count '('
  closed_eq : text.count ')' = text.count '('

/-- The number of open parentheses after a character; none when it closes one that
was not open. -/
def nest? (depth : Nat) (c : Char) : Option Nat :=
  if c = '(' then some (depth + 1)
  else if c = ')' then
    if depth = 0 then none else some (depth - 1)
  else some depth

/-- The number of open parentheses after a text. -/
def depthAfter? (depth : Nat) (text : Text) : Option Nat :=
  text.foldlM nest? depth

/-- What a literal holds and what follows it. `depth` parentheses are open, that of
the literal included; it ends where none is open any more. -/
def literalFrom? (depth : Nat) : Text → Option (Text × Text)
  | [] => none
  | c :: rest =>
    let depth := if c = '(' then depth + 1 else if c = ')' then depth - 1 else depth
    if depth = 0 then some ([], rest)
    else (literalFrom? depth rest).map fun literal => (c :: literal.1, literal.2)

/-- What a literal holds and what follows it, after its opening parenthesis. -/
def literal? (text : Text) : Option (Text × Text) :=
  literalFrom? 1 text

/-! ## Depth -/

theorem nest?_of_ne {c : Char} (hopening : c ≠ '(') (hclosing : c ≠ ')') (depth : Nat) :
    nest? depth c = some depth := by
  rw [nest?, if_neg hopening, if_neg hclosing]

@[simp]
theorem depthAfter?_nil (depth : Nat) : depthAfter? depth [] = some depth := rfl

theorem depthAfter?_cons (depth : Nat) (c : Char) (rest : Text) :
    depthAfter? depth (c :: rest) = (nest? depth c).bind fun depth => depthAfter? depth rest := rfl

/-- The depth passes through texts one after the other. -/
theorem depthAfter?_append (depth : Nat) (front back : Text) :
    depthAfter? depth (front ++ back)
      = (depthAfter? depth front).bind fun depth => depthAfter? depth back :=
  List.foldlM_append

/-- A text without parentheses does not change the depth. -/
theorem depthAfter?_of_notMem {text : Text} (hopening : '(' ∉ text) (hclosing : ')' ∉ text)
    (depth : Nat) : depthAfter? depth text = some depth := by
  induction text with
  | nil => rfl
  | cons c rest ih =>
      rw [List.mem_cons, not_or] at hopening hclosing
      rw [depthAfter?_cons, nest?_of_ne (Ne.symm hopening.1) (Ne.symm hclosing.1), Option.bind_some,
        ih hopening.2 hclosing.2]

/-- Writing characters in another way keeps the depth when it keeps that of each. -/
theorem depthAfter?_flatMap {written : Char → Text} {text : Text}
    (h : ∀ c ∈ text, ∀ depth, depthAfter? depth (written c) = nest? depth c) (depth : Nat) :
    depthAfter? depth (text.flatMap written) = depthAfter? depth text := by
  induction text generalizing depth with
  | nil => rfl
  | cons c rest ih =>
      obtain ⟨hc, hrest⟩ := List.forall_mem_cons.1 h
      rw [List.flatMap_cons, depthAfter?_append, hc, depthAfter?_cons]
      exact congrArg _ (funext (ih hrest))

theorem forall_prefix_cons {c : Char} {rest : Text} {p : Text → Prop} :
    (∀ front, front <+: c :: rest → p front) ↔ p [] ∧ ∀ front, front <+: rest → p (c :: front) := by
  constructor
  · intro h
    exact ⟨h [] List.nil_prefix, fun front hfront => h _ (List.cons_prefix_cons.2 ⟨rfl, hfront⟩)⟩
  · rintro ⟨hnil, hcons⟩ front hfront
    rcases List.prefix_cons_iff.1 hfront with rfl | ⟨later, rfl, hlater⟩
    · exact hnil
    · exact hcons later hlater

theorem nest?_eq_some_iff {depth next : Nat} {c : Char} :
    nest? depth c = some next ↔ [c].count ')' + next = depth + [c].count '(' := by
  unfold nest?
  by_cases hopening : c = '('
  · subst hopening
    simp [eq_comm]
  by_cases hclosing : c = ')'
  · subst hclosing
    simp
    omega
  · simp [hopening, hclosing, eq_comm]

/-- The depth counts: what is open is what was opened and not closed. -/
theorem depthAfter?_eq_some_iff {depth after : Nat} {text : Text} :
    depthAfter? depth text = some after ↔
      (∀ front, front <+: text → front.count ')' ≤ depth + front.count '(') ∧
        text.count ')' + after = depth + text.count '(' := by
  induction text generalizing depth with
  | nil => simp [eq_comm]
  | cons c rest ih =>
      have hcount (front : Text) :
          (c :: front).count ')' = [c].count ')' + front.count ')' ∧
            (c :: front).count '(' = [c].count '(' + front.count '(' := by
        rw [← List.singleton_append, List.count_append, List.count_append]
        exact ⟨rfl, rfl⟩
      have hrest := hcount rest
      rw [depthAfter?_cons, forall_prefix_cons, Option.bind_eq_some_iff]
      simp only [nest?_eq_some_iff, ih]
      constructor
      · rintro ⟨next, hnext, hle, heq⟩
        refine ⟨⟨Nat.zero_le _, fun front hfront => ?_⟩, by omega⟩
        have := hle front hfront
        have := hcount front
        omega
      · rintro ⟨⟨-, hle⟩, heq⟩
        have hc : [c].count ')' ≤ depth + [c].count '(' := hle [] List.nil_prefix
        refine ⟨depth + [c].count '(' - [c].count ')', by omega, fun front hfront => ?_, by omega⟩
        have := hle front hfront
        have := hcount front
        omega

/-- The depth is lost where a parenthesis closes one that was not open. -/
theorem exists_of_depthAfter?_eq_none {depth : Nat} {text : Text}
    (h : depthAfter? depth text = none) :
    ∃ front rest, text = front ++ ')' :: rest ∧ depthAfter? depth front = some 0 := by
  induction text generalizing depth with
  | nil => cases h
  | cons c rest ih =>
      cases hnest : nest? depth c with
      | none =>
          obtain ⟨rfl, rfl⟩ : c = ')' ∧ depth = 0 := by
            unfold nest? at hnest
            grind
          exact ⟨[], rest, rfl, rfl⟩
      | some next =>
          rw [depthAfter?_cons, hnest, Option.bind_some] at h
          obtain ⟨front, back, rfl, hfront⟩ := ih h
          refine ⟨c :: front, back, rfl, ?_⟩
          rw [depthAfter?_cons, hnest, Option.bind_some, hfront]

theorem balanced_iff {text : Text} : Balanced text ↔ depthAfter? 0 text = some 0 := by
  rw [depthAfter?_eq_some_iff]
  simp only [Nat.zero_add, Nat.add_zero]
  exact ⟨fun h => ⟨h.1, h.2⟩, fun h => ⟨h.1, h.2⟩⟩

instance : DecidablePred Balanced :=
  fun _ => decidable_of_iff _ balanced_iff.symm

/-! ## Balanced texts -/

namespace Balanced

/-- A balanced text leaves as many parentheses open as were open before it. -/
theorem depthAfter? {text : Text} (h : Balanced text) (depth : Nat) :
    Text.depthAfter? depth text = some depth := by
  refine depthAfter?_eq_some_iff.2 ⟨fun front hfront => ?_, h.closed_eq ▸ Nat.add_comm _ _⟩
  exact Nat.le_trans (h.closed_le front hfront) (Nat.le_add_left _ _)

theorem append {front back : Text} (hfront : Balanced front) (hback : Balanced back) :
    Balanced (front ++ back) := by
  rw [balanced_iff] at hfront hback ⊢
  rw [depthAfter?_append, hfront, Option.bind_some, hback]

theorem flatMap {α : Type} {members : List α} {written : α → Text}
    (h : ∀ member ∈ members, Balanced (written member)) : Balanced (members.flatMap written) := by
  induction members with
  | nil => exact balanced_iff.2 rfl
  | cons member members ih =>
      obtain ⟨hmember, hmembers⟩ := List.forall_mem_cons.1 h
      rw [List.flatMap_cons]
      exact hmember.append (ih hmembers)

/-- A parenthesis that closes nothing is one more than were opened before it. -/
theorem exists_prefix_count_lt {front : Text} (h : Balanced front) (rest : Text) :
    ∃ part, part <+: front ++ ')' :: rest ∧ part.count '(' < part.count ')' := by
  refine ⟨front ++ [')'], (List.prefix_append_right_inj front).2 ⟨rest, rfl⟩, ?_⟩
  rw [List.count_append, List.count_append, h.closed_eq, List.count_singleton_self,
    List.count_singleton]
  exact Nat.lt_succ_self _

/-- A text that closes more than it opens somewhere is not balanced. -/
theorem not_append_cons {front : Text} (h : Balanced front) (rest : Text) :
    ¬ Balanced (front ++ ')' :: rest) := by
  intro hall
  obtain ⟨part, hpart, hlt⟩ := h.exists_prefix_count_lt rest
  exact Nat.not_le_of_lt hlt (hall.closed_le part hpart)

theorem of_notMem {text : Text} (hopening : '(' ∉ text) (hclosing : ')' ∉ text) : Balanced text :=
  balanced_iff.2 (depthAfter?_of_notMem hopening hclosing 0)

end Balanced

/-! ## Literals -/

/-- A text that closes nothing but what it opened stays inside the literal. -/
theorem literalFrom?_append {depth after : Nat} {text : Text}
    (h : depthAfter? depth text = some after) (rest : Text) :
    literalFrom? (depth + 1) (text ++ rest)
      = (literalFrom? (after + 1) rest).map fun literal => (text ++ literal.1, literal.2) := by
  induction text generalizing depth with
  | nil =>
      obtain rfl := Option.some.inj h
      exact Option.map_id'.symm
  | cons c text ih =>
      obtain ⟨next, hnext, htext⟩ := Option.bind_eq_some_iff.1 (depthAfter?_cons depth c text ▸ h)
      have hdepth : (if c = '(' then depth + 1 + 1 else if c = ')' then depth + 1 - 1
          else depth + 1) = next + 1 := by
        unfold nest? at hnext
        grind
      rw [List.cons_append, literalFrom?]
      simp only [hdepth, Nat.add_one_ne_zero, if_false, ih htext, Option.map_map]
      rfl

/-- A literal that holds a balanced text ends right after it. -/
theorem Balanced.literal? {text : Text} (h : Balanced text) (rest : Text) :
    literal? (text ++ ')' :: rest) = some (text, rest) := by
  rw [Text.literal?, literalFrom?_append (balanced_iff.1 h)]
  simp [literalFrom?]

end QuineRelay.Text
