import Mathlib.Data.List.Forall2
import QuineRelay.Text.Blank
import QuineRelay.Text.Letters

/-!
# Letters in either case

A text that is written with some of its letters in the other case is told from the text by
nothing that only looks at small letters. White space and punctuation have no case. All of
this follows from the codes of the letters: a capital and its small letter lie 32 apart.
-/

namespace QuineRelay.Text

/-! ## The codes of letters -/

theorem isUpper_iff {c : Char} : c.isUpper = true ↔ 65 ≤ c.toNat ∧ c.toNat ≤ 90 :=
  decide_eq_true_iff

theorem isLower_iff {c : Char} : c.isLower = true ↔ 97 ≤ c.toNat ∧ c.toNat ≤ 122 := by
  show (decide (97 ≤ c.toNat) && decide (c.toNat ≤ 122)) = true ↔ _
  rw [Bool.and_eq_true, decide_eq_true_iff, decide_eq_true_iff]

theorem isAlpha_iff {c : Char} : c.isAlpha = true ↔ c.isUpper = true ∨ c.isLower = true :=
  Bool.or_eq_true_iff

theorem toNat_toLower (c : Char) :
    c.toLower.toNat = if 65 ≤ c.toNat ∧ c.toNat ≤ 90 then c.toNat + 32 else c.toNat := by
  by_cases h : 65 ≤ c.toNat ∧ c.toNat ≤ 90
  · have hval : c.toLower.val = c.val + ('a'.val - 'A'.val) := congrArg Char.val (dif_pos h)
    have hshift : ('a'.val - 'A'.val).toNat = 32 := by decide
    rw [if_pos h, ← Char.toNat_val, hval, UInt32.toNat_add, hshift, Char.toNat_val]
    omega
  · have hself : c.toLower = c := dif_neg h
    rw [if_neg h, hself]

theorem toNat_toUpper (c : Char) :
    c.toUpper.toNat = if 97 ≤ c.toNat ∧ c.toNat ≤ 122 then c.toNat - 32 else c.toNat := by
  by_cases h : 'a'.val ≤ c.val ∧ c.val ≤ 'z'.val
  · have hrange : 97 ≤ c.toNat ∧ c.toNat ≤ 122 := h
    have hshift : ('A'.val - 'a'.val).toNat = 2 ^ 32 - 32 := by decide
    have hval : c.toUpper.val = c.val + ('A'.val - 'a'.val) := by
      delta Char.toUpper
      rw [dif_pos h]
    rw [if_pos hrange, ← Char.toNat_val, hval, UInt32.toNat_add, hshift, Char.toNat_val]
    omega
  · have hrange : ¬ (97 ≤ c.toNat ∧ c.toNat ≤ 122) := h
    have hself : c.toUpper = c := dif_neg h
    rw [if_neg hrange, hself]

/-- What is no capital is its own small form. -/
theorem toLower_eq_self {c : Char} (h : c.isUpper = false) : c.toLower = c := by
  rw [← Bool.not_eq_true, isUpper_iff] at h
  rw [← Char.toNat_inj, toNat_toLower, if_neg h]

theorem toLower_toLower (c : Char) : c.toLower.toLower = c.toLower := by
  rw [← Char.toNat_inj, toNat_toLower, toNat_toLower]
  split
  · split <;> omega
  · rfl

theorem toLower_toUpper (c : Char) : c.toUpper.toLower = c.toLower := by
  rw [← Char.toNat_inj, toNat_toLower, toNat_toLower, toNat_toUpper]
  by_cases hsmall : 97 ≤ c.toNat ∧ c.toNat ≤ 122
  · rw [if_pos hsmall, if_pos (by omega), if_neg (by omega)]
    omega
  · rw [if_neg hsmall]

/-- The small form of a letter, and of nothing else, is a small letter. -/
theorem isLower_toLower (c : Char) : c.toLower.isLower = c.isAlpha := by
  rw [Bool.eq_iff_iff, isAlpha_iff, isLower_iff, isLower_iff, isUpper_iff, toNat_toLower]
  split <;> omega

/-! ## Texts -/

/-- `written` is `text` with each of its ASCII letters small or capital. -/
def IsCasing (written text : Text) : Prop :=
  List.Forall₂ (fun w c => w = c.toLower ∨ w = c.toUpper) written text

instance (written text : Text) : Decidable (IsCasing written text) :=
  inferInstanceAs (Decidable (List.Forall₂ _ written text))

theorem IsCasing.map_toLower {written text : Text} (h : IsCasing written text) :
    written.map Char.toLower = text.map Char.toLower := by
  induction h with
  | nil => rfl
  | cons hc _ ih =>
      rw [List.map_cons, List.map_cons, ih]
      rcases hc with rfl | rfl
      · rw [toLower_toLower]
      · rw [toLower_toUpper]

/-- A character that is no letter stands where it stands in small letters. -/
theorem mem_of_map_toLower {written text : Text} {c : Char} (hc : c.isAlpha = false)
    (h : written.map Char.toLower = text.map Char.toLower) (hmem : c ∈ written) : c ∈ text := by
  have hcapital {a : Char} (ha : a.isAlpha = false) : a.isUpper = false :=
    (Bool.or_eq_false_iff.1 ha).1
  have hmem' : c.toLower ∈ text.map Char.toLower := h ▸ List.mem_map_of_mem hmem
  obtain ⟨a, ha, heq⟩ := List.mem_map.1 hmem'
  rw [toLower_eq_self (hcapital hc)] at heq
  have hnot : a.isAlpha = false := by
    rw [← isLower_toLower, heq]
    exact (Bool.or_eq_false_iff.1 hc).2
  rw [toLower_eq_self (hcapital hnot)] at heq
  rwa [← heq]

/-- No letter is white space. -/
theorem isBlank_toLower (c : Char) : isBlank c.toLower = isBlank c := by
  rw [Bool.eq_iff_iff]
  simp only [isBlank, toNat_toLower, Bool.or_eq_true, Bool.and_eq_true, decide_eq_true_eq,
    beq_iff_eq]
  split
  · omega
  · rfl

end QuineRelay.Text
