import QuineRelay.Proofs.Files.Directories
import QuineRelay.Proofs.Text.Letters
import QuineRelay.Proofs.Text.Numeral
import QuineRelay.Verify.Runner

/-!
# The directories of stages

The directory of a stage is named by its index, up to a dash, and its language. So it
is a single name below the directory that keeps it, whatever the language is called, and
no two stages of a relay share one.
-/

namespace QuineRelay.Verify

variable {index other : Nat} {language otherLanguage : Text}

theorem isDigit_of_mem_decimalPadded {width n : Nat} {c : Char}
    (h : c ∈ Text.decimalPadded width n) : c.isDigit = true := by
  rcases List.mem_append.1 h with hzero | hdigit
  · rw [(List.mem_replicate.1 hzero).2]
    rfl
  · exact Text.isDigit_of_mem_decimal hdigit

theorem ofDigitChars_decimalPadded (width n : Nat) :
    Nat.ofDigitChars 10 (Text.decimalPadded width n) 0 = n := by
  rw [Text.decimalPadded]
  induction width - (Text.decimal n).length with
  | zero => simp [Text.decimal, Nat.ofDigitChars_ten_toDigits]
  | succ zeros ih =>
      rw [List.replicate_succ, List.cons_append, Nat.ofDigitChars_cons]
      exact ih

theorem directoryName_takeWhile (index : Nat) (language : Text) :
    (directoryName index language).takeWhile Char.isDigit = Text.decimalPadded 2 index := by
  rw [directoryName, List.takeWhile_append_of_pos fun c hc => isDigit_of_mem_decimalPadded hc,
    List.takeWhile_cons_of_neg (by decide), List.append_nil]

/-- Stages of different indices have different directories. -/
theorem index_eq_of_directoryName_eq
    (h : directoryName index language = directoryName other otherLanguage) : index = other := by
  have hdigits := congrArg (List.takeWhile Char.isDigit) h
  rw [directoryName_takeWhile, directoryName_takeWhile] at hdigits
  rw [← ofDigitChars_decimalPadded 2 index, hdigits, ofDigitChars_decimalPadded]

/-- The characters of a directory name. -/
def isDirectoryChar (c : Char) : Bool :=
  c.isDigit || c.isLower || c == '-'

theorem isDirectoryChar_of_directoryChar? {c named : Char} (h : directoryChar? c = some named) :
    isDirectoryChar named = true := by
  rw [directoryChar?] at h
  split at h
  · exact Option.some.inj h ▸ rfl
  · split at h
    · exact Option.some.inj h ▸ rfl
    · split at h
      · exact Option.some.inj h ▸ rfl
      · split at h
        · rename_i halphanum
          obtain rfl := Option.some.inj h
          rw [isDirectoryChar, Text.isLower_toLower]
          rcases Bool.or_eq_true_iff.1 halphanum with halpha | hdigit
          · rw [halpha, Bool.or_true, Bool.true_or]
          · cases hupper : c.isUpper with
            | true => rw [Text.isAlpha_iff.2 (.inl hupper), Bool.or_true, Bool.true_or]
            | false => rw [Text.toLower_eq_self hupper, hdigit, Bool.true_or, Bool.true_or]
        · cases h

theorem isDirectoryChar_of_mem {c : Char} (h : c ∈ directoryName index language) :
    isDirectoryChar c = true := by
  rcases List.mem_append.1 h with hdigit | hrest
  · simp [isDirectoryChar, isDigit_of_mem_decimalPadded hdigit]
  · rcases List.mem_cons.1 hrest with rfl | hname
    · rfl
    · obtain ⟨a, -, ha⟩ := List.mem_filterMap.1 hname
      exact isDirectoryChar_of_directoryChar? ha

/-- The directory of a stage is a single name. -/
theorem isName_directoryName (index : Nat) (language : Text) :
    Path.IsName (directoryName index language) := by
  have hchar {c : Char} (hc : isDirectoryChar c = false) : c ∉ directoryName index language := by
    intro hmem
    rw [isDirectoryChar_of_mem hmem] at hc
    cases hc
  have hdot := hchar (c := '.') rfl
  exact
    { ne_nil := by simp [directoryName]
      ne_here := fun h => hdot (by rw [h]; decide)
      ne_above := fun h => hdot (by rw [h]; decide)
      notMem := hchar rfl }

theorem keptText_ne_nil (root : Text) (index : Nat) (stage : Stage) :
    keptText root index stage ≠ [] := by
  rw [keptText, (isName_directoryName index _).joinText_eq]
  simp [directoryName]

theorem getLast?_keptText (root : Text) (index : Nat) (stage : Stage) :
    (keptText root index stage).getLast? ≠ some '/' :=
  (isName_directoryName index _).getLast?_joinText root

end QuineRelay.Verify
