import Mathlib.Data.List.TakeWhile
import QuineRelay.Text.Blank

/-!
# White space at the ends

Trimming takes white space off the end of a text and nothing else. What stands before a
character that is no white space is never reached, so a text that is put together from
fields keeps its separators. Trimmed at both ends, a word is found in the white space around
it, and nothing is left only of white space.
-/

namespace QuineRelay.Text

variable {text back : Text} {c : Char}

/-- White space at the end makes no difference. -/
theorem trimEnd_append_of_isBlank (front : Text) (h : ∀ c ∈ back, isBlank c = true) :
    trimEnd (front ++ back) = trimEnd front := by
  rw [trimEnd, List.reverse_append, List.dropWhile_append_of_pos]
  · rfl
  · exact fun c hc => h c (List.mem_reverse.1 hc)

/-- Trimming stops at a character that is no white space. -/
theorem trimEnd_append_cons (h : isBlank c = false) (front back : Text) :
    trimEnd (front ++ c :: back) = front ++ c :: trimEnd back := by
  have hc : ¬ isBlank c = true := by rw [h]; decide
  rw [trimEnd, trimEnd, List.reverse_append, List.reverse_cons, List.append_assoc,
    List.singleton_append, List.dropWhile_append]
  split
  · rename_i hall
    rw [List.dropWhile_cons_of_neg hc, List.isEmpty_iff.1 hall]
    simp
  · simp

theorem trimEnd_eq_self (h : ∀ c ∈ text.getLast?, isBlank c = false) : trimEnd text = text := by
  rcases List.eq_nil_or_concat text with rfl | ⟨front, c, rfl⟩
  · rfl
  · rw [List.concat_eq_append] at h ⊢
    exact trimEnd_append_cons (h c (by simp)) front []

/-- A text of white space only. -/
def IsBlank (text : Text) : Prop :=
  ∀ c ∈ text, isBlank c = true

instance (text : Text) : Decidable (IsBlank text) :=
  inferInstanceAs (Decidable (∀ c ∈ text, isBlank c = true))

theorem IsBlank.notMem (h : IsBlank text) (hc : isBlank c = false) : c ∉ text := by
  intro hmem
  rw [h c hmem] at hc
  cases hc

/-- Nothing is left of a text just when it is all white space. -/
theorem trim_eq_nil_iff : trim text = [] ↔ IsBlank text := by
  rw [trim, IsBlank, ← List.dropWhile_eq_nil_iff]
  constructor
  · intro h
    cases hrest : text.dropWhile isBlank with
    | nil => rfl
    | cons c rest =>
        have hc : isBlank c = false := by
          have hnot := List.head?_dropWhile_not isBlank text
          rwa [hrest] at hnot
        have hkept := trimEnd_append_cons hc [] rest
        rw [List.nil_append, ← hrest, h] at hkept
        cases hkept
  · intro h
    rw [h]
    rfl

/-- A word is found in the white space around it. -/
theorem trim_append {before word after : Text} (hbefore : IsBlank before)
    (hafter : IsBlank after) (hhead : ∀ c ∈ word.head?, isBlank c = false)
    (hlast : ∀ c ∈ word.getLast?, isBlank c = false) : trim (before ++ word ++ after) = word := by
  cases word with
  | nil =>
      rw [List.append_nil, trim_eq_nil_iff]
      intro c hc
      exact (List.mem_append.1 hc).elim (hbefore c) (hafter c)
  | cons c word =>
      have hc : ¬ isBlank c = true := by
        rw [hhead c rfl]
        decide
      rw [trim, List.append_assoc, List.dropWhile_append_of_pos hbefore, List.cons_append,
        List.dropWhile_cons_of_neg hc, ← List.cons_append, trimEnd_append_of_isBlank _ hafter,
        trimEnd_eq_self hlast]

end QuineRelay.Text
