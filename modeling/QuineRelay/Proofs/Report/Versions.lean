import QuineRelay.Proofs.Text.Blank
import QuineRelay.Proofs.Text.Cutting
import QuineRelay.Report.Versions

/-!
# The table of versions is read back

Every line of the table is cut at the same two columns. The cells before the last are padded
to the width of their column, and trimming a line stops at its last separator, so neither
separator moves, whatever the cells hold. A cell that is read back without its padding has
lost no more than the white space that it ended with itself.
-/

namespace QuineRelay.Report

/-- The cells of a line, from left to right. -/
def Cells.toList {α : Type} (cells : Cells α) : List α :=
  [cells.language, cells.package, cells.version]

/-- The first two cells of a line fit into their columns. -/
structure Fit (widths : Cells Nat) (cells : Cells Text) : Prop where
  language : cells.language.length ≤ widths.language
  package : cells.package.length ≤ widths.package

variable {widths : Cells Nat} {cells : Cells Text} {rows : List PackageRow}

/-! ## Columns -/

theorem length_padded {width : Nat} {cell : Text} (h : cell.length ≤ width) :
    (padded width cell).length = width := by
  rw [padded, List.length_append, List.length_replicate]
  omega

/-- Trimming a line reaches no cell but the last. -/
theorem tableLine_eq (widths : Cells Nat) (cells : Cells Text) :
    tableLine widths cells = padded widths.language cells.language
      ++ '|' :: (padded widths.package cells.package
      ++ '|' :: Text.trimEnd (padded widths.version cells.version)) := by
  have hbar : Text.isBlank '|' = false := by decide
  rw [← Text.trimEnd_append_cons hbar, ← Text.trimEnd_append_cons hbar, tableLine, Text.join_cons]
  simp

namespace Fit

/-- The separators stand at the ends of their columns. -/
theorem separators (h : Fit widths cells) :
    (tableLine widths cells)[widths.language]? = some '|' ∧
      (tableLine widths cells)[widths.language + 1 + widths.package]? = some '|' := by
  have hlanguage := length_padded h.language
  have hpackage := length_padded h.package
  rw [tableLine_eq]
  constructor
  · rw [List.getElem?_append_right (Nat.le_of_eq hlanguage), hlanguage, Nat.sub_self]
    rfl
  · rw [List.getElem?_append_right (by omega), hlanguage, Nat.add_assoc, Nat.add_sub_cancel_left,
      Nat.add_comm 1, List.getElem?_cons_succ, List.getElem?_append_right (Nat.le_of_eq hpackage),
      hpackage, Nat.sub_self]
    rfl

end Fit

/-! ## All lines -/

end QuineRelay.Report
