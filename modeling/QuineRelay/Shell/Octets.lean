import QuineRelay.Text.Utf8

/-!
# Octets

The shell does not know characters beyond ASCII: it counts, cuts and matches
bytes. All text inside the shell is therefore a text of octets, whose characters
have codes below 256 and stand for one byte each. The text of a file name is
decoded only where the shell meets the file system.
-/

namespace QuineRelay.Shell

/-- The number of different octets. -/
def octetLimit : Nat := 256

/-- The octets of bytes. -/
def ofBytes (bytes : Bytes) : Text :=
  bytes.map fun byte => Char.ofNat byte.toNat

/-- The bytes of octets. -/
def toBytes (octets : Text) : Bytes :=
  octets.map fun c => UInt8.ofNat c.toNat

/-- The octets of a text. -/
def ofText (text : Text) : Text :=
  ofBytes (Utf8.encode text)

/-- The text that octets spell. -/
def toText (octets : Text) : Text :=
  Utf8.decodeLossy (toBytes octets)

/-- Whether `a` stands before `b` when octets are compared one by one. -/
def precedes : Text → Text → Bool
  | [], _ => true
  | _ :: _, [] => false
  | a :: as, b :: bs => if a = b then precedes as bs else a < b

/-- Whether an octet can start a name. -/
def isNameStart (c : Char) : Bool :=
  c.isAlpha || c = '_'

/-- Whether an octet can stand in a name. -/
def isNameChar (c : Char) : Bool :=
  c.isAlphanum || c = '_'

/-- Whether a text is the name of a variable. -/
def isName : Text → Bool
  | [] => false
  | c :: rest => isNameStart c && rest.all isNameChar

/-- Whether an octet is white space where numbers are read. -/
def isSpace (c : Char) : Bool :=
  c = ' ' || (9 ≤ c.toNat && c.toNat ≤ 13)

end QuineRelay.Shell
