import Mathlib.Data.List.Chain
import QuineRelay.Text.Basic

/-!
# Pairs that stand nowhere

Two characters next to each other can begin a mark that changes how a text is read. A
text without such a pair is a chain of neighbours that differ from it. The pair may
also arise where two texts meet, so a text that is put between others has to be
sealed: it does not begin with the second character of the pair, nor end with the
first.
-/

namespace QuineRelay.Text

/-- Two neighbours are apart when they are not the pair. -/
def Apart (pair : Char × Char) (a b : Char) : Prop :=
  a = pair.1 → b ≠ pair.2

instance (pair : Char × Char) : DecidableRel (Apart pair) :=
  fun a b => inferInstanceAs (Decidable (a = pair.1 → b ≠ pair.2))

/-- A text that neither holds the pair nor completes it where it meets another. -/
structure Sealed (pair : Char × Char) (text : Text) : Prop where
  isChain : text.IsChain (Apart pair)
  head : text.head? ≠ some pair.2
  last : text.getLast? ≠ some pair.1

instance (pair : Char × Char) (text : Text) : Decidable (Sealed pair text) :=
  decidable_of_iff (text.IsChain (Apart pair) ∧ text.head? ≠ some pair.2 ∧
      text.getLast? ≠ some pair.1)
    ⟨fun h => ⟨h.1, h.2.1, h.2.2⟩, fun h => ⟨h.1, h.2, h.3⟩⟩

variable {pair : Char × Char} {front back text : Text}

/-- The pair stands nowhere just when all neighbours are apart. -/
theorem isChain_apart_iff : text.IsChain (Apart pair) ↔ ¬ [pair.1, pair.2] <:+: text := by
  rw [List.isChain_iff_forall_rel_of_append_cons_cons]
  constructor
  · rintro h ⟨front, back, htext⟩
    have hat : text = front ++ pair.1 :: pair.2 :: back := by simp [← htext]
    exact h hat rfl rfl
  · rintro h a b front back rfl rfl rfl
    exact h ⟨front, back, by simp⟩

theorem isChain_apart_of_notMem (h : pair.2 ∉ text) : text.IsChain (Apart pair) :=
  isChain_apart_iff.2 fun hpair => h (hpair.subset (by simp))

/-- What was sealed at its end goes before anything. -/
theorem Sealed.isChain_append (hfront : Sealed pair front) (hback : back.IsChain (Apart pair)) :
    (front ++ back).IsChain (Apart pair) :=
  hfront.isChain.append hback fun _ ha _ _ hfirst =>
    absurd (hfirst ▸ ha) hfront.last

/-- What is sealed at its beginning goes after anything. -/
theorem Sealed.append_isChain (hfront : front.IsChain (Apart pair)) (hback : Sealed pair back) :
    (front ++ back).IsChain (Apart pair) :=
  hfront.append hback.isChain fun _ _ _ hb _ hsecond => absurd (hsecond ▸ hb) hback.head

theorem Sealed.nil : Sealed pair [] :=
  ⟨List.isChain_nil, by simp, by simp⟩

theorem Sealed.append (hfront : Sealed pair front) (hback : Sealed pair back) :
    Sealed pair (front ++ back) := by
  refine ⟨hfront.isChain_append hback.isChain, ?_, ?_⟩
  · rw [List.head?_append, Ne, Option.or_eq_some_iff]
    rintro (hfirst | ⟨-, hfirst⟩)
    · exact hfront.head hfirst
    · exact hback.head hfirst
  · rw [List.getLast?_append, Ne, Option.or_eq_some_iff]
    rintro (hlast | ⟨-, hlast⟩)
    · exact hback.last hlast
    · exact hfront.last hlast

theorem Sealed.flatMap {α : Type} {members : List α} {written : α → Text}
    (h : ∀ member ∈ members, Sealed pair (written member)) :
    Sealed pair (members.flatMap written) := by
  induction members with
  | nil => exact Sealed.nil
  | cons member members ih =>
      obtain ⟨hmember, hmembers⟩ := List.forall_mem_cons.1 h
      rw [List.flatMap_cons]
      exact hmember.append (ih hmembers)

/-- Characters may be written as sealed texts, or stay as they are. -/
theorem isChain_flatMap {written : Char → Text}
    (hwritten : ∀ c ∈ text, written c = [c] ∨ written c ≠ [] ∧ Sealed pair (written c))
    (h : text.IsChain (Apart pair)) : (text.flatMap written).IsChain (Apart pair) := by
  -- A text that begins with the second character was there before.
  have hhead {text : Text}
      (hwritten : ∀ c ∈ text, written c = [c] ∨ written c ≠ [] ∧ Sealed pair (written c))
      (hsecond : (text.flatMap written).head? = some pair.2) : text.head? = some pair.2 := by
    cases text with
    | nil => exact hsecond
    | cons c text =>
        rw [List.flatMap_cons] at hsecond
        rcases hwritten c List.mem_cons_self with heq | ⟨hne, hsealed⟩
        · rw [heq] at hsecond
          exact hsecond
        · rw [List.head?_append_of_ne_nil _ hne] at hsecond
          exact absurd hsecond hsealed.head
  induction text with
  | nil => exact List.isChain_nil
  | cons c text ih =>
      obtain ⟨hnext, htext⟩ := List.isChain_cons.1 h
      obtain ⟨hc, hrest⟩ := List.forall_mem_cons.1 hwritten
      rw [List.flatMap_cons]
      rcases hc with heq | ⟨-, hsealed⟩
      · rw [heq, List.singleton_append]
        refine (ih hrest htext).cons fun a ha hfirst hsecond => ?_
        exact hnext a (hsecond ▸ hhead hrest (hsecond ▸ ha)) hfirst hsecond
      · exact hsealed.isChain_append (ih hrest htext)

end QuineRelay.Text
