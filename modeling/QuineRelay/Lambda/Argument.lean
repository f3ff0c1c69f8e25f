import QuineRelay.Quoting.Escapes
import QuineRelay.Text.Numeral

/-!
# Arguments of the lambdas

The data of a quoting reaches its lambda as text: strings as hexadecimal digits
in a call of the helper `h`, escape tables as hashes of such calls, and counts
in decimal. So whatever characters the data holds, the arguments are made of
letters, digits and a few marks that no literal of the origin has to escape.

`parse` reads an argument back. It takes the digits of a string in pairs of
bytes; a pair that would divide a character is a fault of its own, apart from
text that is no argument at all.
-/

namespace QuineRelay

/-- An argument as its lambda sees it. -/
inductive Argument where
  | text (value : Text)
  | table (entries : List (Text × Text))
  | number (value : Nat)
  deriving DecidableEq, Repr

namespace Argument

/-- The expression for a string. -/
def ofText (text : Text) : Text :=
  "h[\"" ++ Text.hexBytes (Utf8.encode text) ++ "\"]"

/-- One entry of the expression for an escape table. -/
def ofEntry (entry : Char × Text) : Text :=
  ofText [entry.1] ++ "=>" ++ ofText entry.2

/-- The expression for an escape table. -/
def ofTable (table : EscapeTable) : Text :=
  "\x7b" ++ Text.join "," (table.map ofEntry) ++ "\x7d"

/-- Why a text is not the expression of an argument. -/
inductive Fault where
  | malformed
  /-- Two digits cannot be taken because a character would be divided. -/
  | dividedCharacter
  deriving DecidableEq, Repr

/-- The byte that two characters spell in hexadecimal; a plus sign may take the
place of the first digit. -/
def bytePair? (a b : Char) : Option UInt8 :=
  let high? := if a = '+' then some 0 else Text.hexDigit? a
  match high?, Text.hexDigit? b with
  | some high, some low => some (UInt8.ofNat (16 * high + low))
  | _, _ => none

/-- The bytes that hexadecimal digits spell, taken in pairs of bytes from the
left; `done` holds the bytes so far, in reverse. -/
def digitBytesFrom (done : Bytes) : Text → Except Fault Bytes
  | [] => .ok done.reverse
  | a :: rest =>
    if Utf8.charSize a = 1 then
      match rest with
      | [] => .error .malformed
      | b :: rest =>
        if Utf8.charSize b = 1 then
          match bytePair? a b with
          | some byte => digitBytesFrom (byte :: done) rest
          | none => .error .malformed
        else .error .dividedCharacter
    else if Utf8.charSize a = 2 then .error .malformed
    else .error .dividedCharacter

/-- The string that the expression `text` spells. -/
def parseText (text : Text) : Except Fault Text :=
  match (Text.afterOpening? "h[\"" text).bind (Text.beforeEnding? "\"]") with
  | none => .error .malformed
  | some digits =>
    if Utf8.size digits % 2 = 0 then
      match digitBytesFrom [] digits with
      | .error fault => .error fault
      | .ok bytes =>
        match Utf8.decode? bytes with
        | some value => .ok value
        | none => .error .malformed
    else .error .malformed

/-- The entry of a table that the expression `text` spells. -/
def parseEntry (text : Text) : Except Fault (Text × Text) :=
  match Text.cutAt? "=>" text with
  | none => .error .malformed
  | some (key, value) => do
    let key ← parseText key
    let value ← parseText value
    return (key, value)

/-- The argument that the expression `text` spells. -/
def parse (text : Text) : Except Fault Argument :=
  match text with
  | '\x7b' :: inner =>
    match Text.beforeEnding? "\x7d" inner with
    | none => .error .malformed
    | some [] => .ok (.table [])
    | some entries => .table <$> (Text.splitOn ',' entries).mapM parseEntry
  | _ =>
    if Text.startsWith "h[" text then .text <$> parseText text
    else
      match Text.word? text with
      | some n => .ok (.number n)
      | none => .error .malformed

end Argument

end QuineRelay
