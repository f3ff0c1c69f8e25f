import QuineRelay.Text.Basic

/-!
# White space

Names and versions are read without the white space around them. White space is
the Unicode property of that name; its twenty-five members are fixed by the
standard.
-/

namespace QuineRelay.Text

/-- Whether a character has the Unicode property White_Space. -/
def isBlank (c : Char) : Bool :=
  let n := c.toNat
  (0x09 ≤ n && n ≤ 0x0D) || n == 0x20 || n == 0x85 || n == 0xA0 || n == 0x1680
    || (0x2000 ≤ n && n ≤ 0x200A) || n == 0x2028 || n == 0x2029 || n == 0x202F
    || n == 0x205F || n == 0x3000

/-- `text` without the white space at its end. -/
def trimEnd (text : Text) : Text :=
  (text.reverse.dropWhile isBlank).reverse

/-- `text` without the white space at its beginning and end. -/
def trim (text : Text) : Text :=
  trimEnd (text.dropWhile isBlank)

end QuineRelay.Text
