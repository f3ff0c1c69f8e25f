import Mathlib.Data.List.Basic
import QuineRelay.Proofs.Text.Parentheses
import QuineRelay.TapeMachine

/-!
# Brackets and their partners

The brackets of a program nest as parentheses of a text do. Two of them are partners when what
stands strictly between them is balanced. A bracket has at most one partner, and no two pairs
of partners cross. Nothing else can be asked of a pairing: a program has at most one pairing of
all its brackets in which no two pairs cross.

The facts about partners are facts about counts. Cutting what stands between two brackets at a
third one gives a front and a back, and a bracket that is open at the end of the front, or
closed at the start of the back, is one too many.
-/

namespace QuineRelay.TapeMachine

/-- No beginning of the code closes more brackets than it opens, and the whole code
closes as many as it opens. -/
structure Balanced (code : Bytes) : Prop where
  closed_le : ∀ front, front <+: code → front.count loopEnd ≤ front.count loopStart
  closed_eq : code.count loopEnd = code.count loopStart

/-- A bracket as a parenthesis, and any other byte as a space. -/
def parenthesis (b : UInt8) : Char :=
  if b = loopStart then '(' else if b = loopEnd then ')' else ' '

/-- The bytes strictly between two places of a program. -/
def between (code : Bytes) (first last : Nat) : Bytes :=
  (code.take last).drop (first + 1)

/-- The places of a bracket that opens and of the one that closes it. -/
structure Partners (code : Bytes) (first last : Nat) : Prop where
  lt : first < last
  opening : code[first]? = some loopStart
  closing : code[last]? = some loopEnd
  balanced : Balanced (between code first last)

/-- A pairing of all brackets of a program in which no two pairs cross. -/
structure IsNesting (code : Bytes) (pairs : Nat → Nat → Prop) : Prop where
  lt : ∀ {first last}, pairs first last → first < last
  opening : ∀ {first last}, pairs first last → code[first]? = some loopStart
  closing : ∀ {first last}, pairs first last → code[last]? = some loopEnd
  exists_last : ∀ {first}, code[first]? = some loopStart → ∃ last, pairs first last
  exists_first : ∀ {last}, code[last]? = some loopEnd → ∃ first, pairs first last
  last_unique : ∀ {first last last'}, pairs first last → pairs first last' → last = last'
  first_unique : ∀ {first first' last}, pairs first last → pairs first' last → first = first'
  not_crossing : ∀ {first last first' last'}, pairs first last → pairs first' last' →
    first < first' → first' < last → last' < last

variable {code front back inner more : Bytes} {first last mid first' last' : Nat}

/-! ## Balanced code -/

theorem count_map_parenthesis (code : Bytes) :
    (code.map parenthesis).count '(' = code.count loopStart ∧
      (code.map parenthesis).count ')' = code.count loopEnd := by
  have hopening : ((· == '(') ∘ parenthesis : UInt8 → Bool) = (· == loopStart) := by
    funext b
    unfold parenthesis
    simp only [Function.comp_apply]
    split <;> grind
  have hclosing : ((· == ')') ∘ parenthesis : UInt8 → Bool) = (· == loopEnd) := by
    funext b
    unfold parenthesis
    simp only [Function.comp_apply]
    split <;> grind [loopStart, loopEnd]
  constructor
  · rw [List.count, List.countP_map, hopening, List.count]
  · rw [List.count, List.countP_map, hclosing, List.count]

/-- Brackets are balanced as parentheses are. -/
theorem balanced_iff : Balanced code ↔ Text.Balanced (code.map parenthesis) := by
  have hcount (front : Bytes) :
      front.count loopEnd ≤ front.count loopStart ↔
        (front.map parenthesis).count ')' ≤ (front.map parenthesis).count '(' := by
    rw [(count_map_parenthesis front).1, (count_map_parenthesis front).2]
  constructor
  · intro h
    refine ⟨fun front hfront => ?_, ?_⟩
    · obtain ⟨part, hpart, rfl⟩ := List.prefix_map_iff.1 hfront
      exact (hcount part).1 (h.closed_le part hpart)
    · rw [(count_map_parenthesis code).1, (count_map_parenthesis code).2, h.closed_eq]
  · intro h
    refine ⟨fun front hfront => (hcount front).2 (h.closed_le _ (hfront.map parenthesis)), ?_⟩
    rw [← (count_map_parenthesis code).1, ← (count_map_parenthesis code).2, h.closed_eq]

/-- Code is balanced when the depth of its brackets starts and ends at zero. -/
theorem balanced_iff_depth :
    Balanced code ↔ Text.depthAfter? 0 (code.map parenthesis) = some 0 :=
  balanced_iff.trans Text.balanced_iff

namespace Balanced

theorem nil : Balanced [] :=
  balanced_iff_depth.2 rfl

theorem append (hfront : Balanced front) (hback : Balanced back) : Balanced (front ++ back) := by
  rw [balanced_iff] at hfront hback ⊢
  rw [List.map_append]
  exact hfront.append hback

/-- A byte that is no bracket. -/
theorem singleton {b : UInt8} (hstart : b ≠ loopStart) (hend : b ≠ loopEnd) : Balanced [b] := by
  rw [balanced_iff_depth, List.map_singleton, parenthesis, if_neg hstart, if_neg hend]
  rfl

/-- A loop around balanced code. -/
theorem loop (h : Balanced inner) : Balanced (loopStart :: (inner ++ [loopEnd])) := by
  rw [balanced_iff] at h
  rw [balanced_iff_depth, List.map_cons, List.map_append, Text.depthAfter?_cons]
  change Text.depthAfter? 1 _ = _
  rw [Text.depthAfter?_append, h.depthAfter?]
  rfl

/-- A bracket that closes nothing is one too many. -/
theorem not_append_loopEnd (h : Balanced front) (back : Bytes) :
    ¬ Balanced (front ++ loopEnd :: back) := by
  rw [balanced_iff] at h ⊢
  rw [List.map_append, List.map_cons]
  exact h.not_append_cons _

end Balanced

/-- A bracket that is not closed is one too many. -/
theorem not_balanced_append_loopStart (h : back.count loopEnd ≤ back.count loopStart)
    (front : Bytes) : ¬ Balanced (front ++ loopStart :: back) := by
  intro hall
  have hle := hall.closed_le front (List.prefix_append front _)
  have heq := hall.closed_eq
  have hclosed : (front ++ loopStart :: back).count loopEnd
      = front.count loopEnd + back.count loopEnd := by
    rw [List.count_append, List.count_cons_of_ne (by decide)]
  have hopened : (front ++ loopStart :: back).count loopStart
      = front.count loopStart + (back.count loopStart + 1) := by
    rw [List.count_append, List.count_cons_self]
  omega

/-! ## What stands between two brackets -/

/-- What stands between two places is cut by a third place between them. -/
theorem between_eq_append {b : UInt8} (hfirst : first < mid) (hlast : mid < last)
    (hb : code[mid]? = some b) :
    between code first last = between code first mid ++ b :: between code mid last := by
  obtain ⟨hmid, rfl⟩ := List.getElem?_eq_some_iff.1 hb
  have hlt : mid < (code.take last).length := by
    rw [List.length_take]
    omega
  have hcut : code.take last = code.take mid ++ code[mid] :: (code.take last).drop (mid + 1) := by
    have hdrop := List.drop_eq_getElem_cons hlt
    rw [List.getElem_take] at hdrop
    rw [← hdrop]
    conv_lhs => rw [← List.take_append_drop mid (code.take last)]
    rw [List.take_take, Nat.min_eq_left (Nat.le_of_lt hlast)]
  have hle : first + 1 ≤ (code.take mid).length := by
    rw [List.length_take]
    omega
  rw [between, hcut, List.drop_append_of_le_length hle]
  rfl

/-- What follows has no part in what stands before it. -/
theorem between_append (h : last ≤ front.length) (more : Bytes) :
    between (front ++ more) first last = between front first last := by
  rw [between, List.take_append_of_le_length h, between]

theorem between_length (before inner : Bytes) :
    between (before ++ loopStart :: inner) before.length (before ++ loopStart :: inner).length
      = inner := by
  rw [between, List.take_length, List.drop_append, List.drop_of_length_le (Nat.le_succ _)]
  simp

namespace Partners

theorem last_lt_length (h : Partners code first last) : last < code.length :=
  (List.getElem?_eq_some_iff.1 h.closing).1

theorem append (h : Partners front first last) (more : Bytes) :
    Partners (front ++ more) first last where
  lt := h.lt
  opening := by rw [List.getElem?_append_left (Nat.lt_trans h.lt h.last_lt_length), h.opening]
  closing := by rw [List.getElem?_append_left h.last_lt_length, h.closing]
  balanced := by
    rw [between_append (Nat.le_of_lt h.last_lt_length)]
    exact h.balanced

theorem last_le (h : Partners code first last) (h' : Partners code first last') :
    last' ≤ last := by
  by_contra hlt
  have hcut := between_eq_append h.lt (Nat.lt_of_not_le hlt) h.closing
  exact h.balanced.not_append_loopEnd _ (hcut ▸ h'.balanced)

theorem le_first (h : Partners code first last) (h' : Partners code first' last) :
    first ≤ first' := by
  by_contra hlt
  have hcut := between_eq_append (Nat.lt_of_not_le hlt) h.lt h.opening
  exact not_balanced_append_loopStart (Nat.le_of_eq h.balanced.closed_eq) _ (hcut ▸ h'.balanced)

/-- A bracket is closed by one bracket. -/
theorem last_unique (h : Partners code first last) (h' : Partners code first last') :
    last = last' :=
  Nat.le_antisymm (h'.last_le h) (h.last_le h')

/-- A bracket closes one bracket. -/
theorem first_unique (h : Partners code first last) (h' : Partners code first' last) :
    first = first' :=
  Nat.le_antisymm (h.le_first h') (h'.le_first h)

/-- A loop that starts inside of another one ends there. -/
theorem last_lt (h : Partners code first last) (h' : Partners code first' last')
    (hfirst : first < first') (hlast : first' < last) : last' < last := by
  by_contra hlt
  rcases Nat.lt_or_eq_of_le (Nat.le_of_not_lt hlt) with hlt | rfl
  · -- What is inside both is a beginning of the second, and an end of the first, loop.
    have hfront := between_eq_append hlast hlt h.closing
    have hback := between_eq_append hfirst hlast h'.opening
    have hle := h'.balanced.closed_le _ ⟨_, hfront.symm⟩
    exact not_balanced_append_loopStart hle _ (hback ▸ h.balanced)
  · exact absurd (h.first_unique h') (Nat.ne_of_lt hfirst)

end Partners

/-! ## Pairings -/

/-- Two pairings of a program agree. The induction is on the distance of two brackets: where
the pairings differ, one of them has a closer pair in between. -/
theorem IsNesting.subset {pairs others : Nat → Nat → Prop} (h : IsNesting code pairs)
    (hothers : IsNesting code others) (hpair : pairs first last) : others first last := by
  induction hdistance : last - first using Nat.strongRecOn generalizing first last with
  | ind distance ih =>
      subst hdistance
      obtain ⟨end', hend⟩ := hothers.exists_last (h.opening hpair)
      have hlt := h.lt hpair
      have hltend := hothers.lt hend
      rcases Nat.lt_trichotomy end' last with hbefore | rfl | hafter
      · -- The other pair ends earlier, at a bracket that closes one in between.
        obtain ⟨start', hstart⟩ := h.exists_first (hothers.closing hend)
        have hltstart := h.lt hstart
        rcases Nat.lt_trichotomy start' first with houter | rfl | hinner
        · have := h.not_crossing hstart hpair houter hltend
          omega
        · exact absurd (h.last_unique hstart hpair) (Nat.ne_of_lt hbefore)
        · have hother := ih (end' - start') (by omega) hstart rfl
          exact absurd (hothers.first_unique hend hother) (Nat.ne_of_lt hinner)
      · exact hend
      · -- The other pair ends later, so the bracket at `last` closes another one there.
        obtain ⟨start', hstart⟩ := hothers.exists_first (h.closing hpair)
        have hltstart := hothers.lt hstart
        rcases Nat.lt_trichotomy start' first with houter | rfl | hinner
        · have := hothers.not_crossing hstart hend houter hlt
          omega
        · exact hstart
        · obtain ⟨stop, hstop⟩ := h.exists_last (hothers.opening hstart)
          have hltstop := h.lt hstop
          have := h.not_crossing hpair hstop hinner hltstart
          have hother := ih (stop - start') (by omega) hstop rfl
          have := hothers.last_unique hother hstart
          omega

/-- A program has one pairing. -/
theorem IsNesting.unique {pairs others : Nat → Nat → Prop} (h : IsNesting code pairs)
    (hothers : IsNesting code others) : pairs first last ↔ others first last :=
  ⟨h.subset hothers, hothers.subset h⟩

end QuineRelay.TapeMachine
