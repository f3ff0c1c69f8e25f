import QuineRelay.Text.InvisibleTable
import QuineRelay.Text.Numeral

/-!
# Quoted text

A quoted text shows every character that a reader could miss. Quotes and
backslashes get a backslash, the four common controls have letters of their own,
and any other invisible character is written as its hexadecimal code.

Invisible are the control characters, the separators other than the plain space,
the format characters, private and unassigned characters, and the marks that would
attach themselves to the character before.
-/

namespace QuineRelay.Text

/-- Whether a quoted text shows the code of `c` in place of `c`. -/
def isInvisible (c : Char) : Bool :=
  c.toNat < 0x20 || inRanges invisibleRanges c

/-- One character of a quoted text. -/
def quotedChar (c : Char) : Text :=
  match c with
  | '"' => "\\\""
  | '\\' => "\\\\"
  | '\t' => "\\t"
  | '\r' => "\\r"
  | '\n' => "\\n"
  | '\x00' => "\\0"
  | c => if isInvisible c then "\\u\x7b" ++ hexadecimal c.toNat ++ "\x7d" else [c]

/-- `text` between double quotes, with its invisible characters shown. -/
def quoted (text : Text) : Text :=
  "\"" ++ text.flatMap quotedChar ++ "\""

end QuineRelay.Text
