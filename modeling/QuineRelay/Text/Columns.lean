import QuineRelay.Text.Blank

/-!
# Terminal columns

A report that points below a character has to know how many columns a terminal
gives it: two for the wide characters of East Asian scripts and for pictographs,
none for marks that attach to the character before, one for the rest.
-/

namespace QuineRelay.Text

/-- Ranges of characters that take two columns. -/
def wideRanges : List (Nat × Nat) :=
  [(0x1100, 0x115F), (0x2E80, 0x303E), (0x3041, 0x33FF), (0x3400, 0x4DBF), (0x4E00, 0x9FFF),
    (0xA000, 0xA4CF), (0xA960, 0xA97F), (0xAC00, 0xD7A3), (0xF900, 0xFAFF), (0xFE30, 0xFE6F),
    (0xFF01, 0xFF60), (0xFFE0, 0xFFE6), (0x1F300, 0x1F64F), (0x1F680, 0x1F6FF),
    (0x1F900, 0x1F9FF), (0x20000, 0x3FFFD)]

/-- Ranges of characters that take no column. -/
def attachedRanges : List (Nat × Nat) :=
  [(0x300, 0x36F), (0x1AB0, 0x1AFF), (0x1DC0, 0x1DFF), (0x200B, 0x200F), (0x20D0, 0x20FF),
    (0xFE00, 0xFE0F), (0xFE20, 0xFE2F), (0xFEFF, 0xFEFF)]

/-- Number of columns a terminal gives to a character that is neither white
space nor a control character. -/
def columns (c : Char) : Nat :=
  if inRanges attachedRanges c then 0 else if inRanges wideRanges c then 2 else 1

end QuineRelay.Text
