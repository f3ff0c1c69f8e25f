import QuineRelay.Shell.Number

/-!
# Escapes

The backslash sequences of the printing commands. One that is unknown stands for
its backslash.
-/

namespace QuineRelay.Shell

/-- Whether an octet is an octal digit. -/
def isOctal (c : Char) : Bool :=
  '0' ≤ c && c ≤ '7'

/-- The octet for what follows a backslash, and the text behind the sequence. -/
def escapeFrom (text : Text) : Char × Text :=
  match text with
  | [] => ('\\', [])
  | c :: rest =>
    if isOctal c then
      let digits := (text.take 3).takeWhile isOctal
      (Char.ofNat (valueOf 8 digits % octetLimit), text.drop digits.length)
    else match c with
      | '\\' => ('\\', rest)
      | 'a' => (Char.ofNat 7, rest)
      | 'b' => (Char.ofNat 8, rest)
      | 'e' => (Char.ofNat 27, rest)
      | 'f' => (Char.ofNat 12, rest)
      | 'n' => ('\n', rest)
      | 'r' => ('\r', rest)
      | 't' => ('\t', rest)
      | 'v' => (Char.ofNat 11, rest)
      | _ => ('\\', text)

theorem escapeFrom_length (text : Text) : (escapeFrom text).2.length ≤ text.length := by
  unfold escapeFrom
  split
  · simp
  · split
    · simp
    · split <;> simp

/-- What stands behind a backslash, without a zero that octal digits follow. -/
def withoutZero (text : Text) : Text :=
  match text with
  | '0' :: d :: rest => if isOctal d then d :: rest else text
  | _ => text

theorem withoutZero_length (text : Text) : (withoutZero text).length ≤ text.length := by
  unfold withoutZero
  split
  · split <;> simp
  · exact Nat.le_refl _

/-- A text with its escapes replaced, and whether it stops the output. Octal
digits may follow a zero here. `done` holds the octets so far, in reverse. -/
def unescapeFrom (done : Text) (text : Text) : Text × Bool :=
  match text with
  | [] => (done.reverse, false)
  | '\\' :: 'c' :: _ => (done.reverse, true)
  | '\\' :: rest =>
    let result := escapeFrom (withoutZero rest)
    unescapeFrom (result.1 :: done) result.2
  | c :: rest => unescapeFrom (c :: done) rest
termination_by text.length
decreasing_by
  · have hescape := escapeFrom_length (withoutZero rest)
    have hzero := withoutZero_length rest
    simp only [List.length_cons]
    omega
  · simp

/-- A text with its escapes replaced, and whether it stops the output. -/
def unescape (text : Text) : Text × Bool :=
  unescapeFrom [] text

/-- What the command `echo` writes for its arguments. -/
def echoed (arguments : List Text) : Text :=
  let (isShort, words) := match arguments with
    | ['-', 'n'] :: words => (true, words)
    | words => (false, words)
  let parts := words.map unescape
  let shown := parts.takeWhile fun part => !part.2
  match parts.drop shown.length with
  | last :: _ => Text.join " " ((shown ++ [last]).map Prod.fst)
  | [] => Text.join " " (shown.map Prod.fst) ++ if isShort then [] else "\n"

end QuineRelay.Shell
