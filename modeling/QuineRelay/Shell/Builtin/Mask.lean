import QuineRelay.Shell.Builtin.Options

/-!
# The mask for new files

The command `umask` shows and sets which rights new files do not get. A mask is
given in base eight, or by what it leaves: who, a sign, and rights.
-/

namespace QuineRelay.Shell.Builtin

open Session

/-- The number of different masks. -/
def maskCount : Nat := 512

/-- The place of a class of users in a mask. -/
def classWeight (who : Char) : Nat :=
  if who = 'u' then 64 else if who = 'g' then 8 else 1

/-- The rights of a class of users. -/
def rightsOf (rights : Nat) (who : Char) : Nat :=
  rights / classWeight who % 8

/-- The rights that the letters of a clause stand for. A class of users stands for
the rights that it has. -/
def rightsFrom (rights : Nat) (letters : Text) : Nat :=
  letters.foldl (fun sum c =>
    sum ||| (if c = 'r' then 4 else if c = 'w' then 2 else if c = 'x' then 1
      else if c ∈ ['u', 'g', 'o'] then rightsOf rights c else 0)) 0

/-- The rights after one of the signs of a clause. -/
def changed (rights : Nat) (who : Text) (sign : Char) (letters : Text) : Nat :=
  let given := rightsFrom rights letters
  let of (c : Char) : Nat :=
    let before := rightsOf rights c
    let after :=
      if !who.contains c then before
      else if sign = '+' then before ||| given
      else if sign = '-' then before - (before &&& given)
      else given
    after * classWeight c
  of 'u' + of 'g' + of 'o'

/-- The rights after the rest of a clause, which is read sign by sign. -/
def changedBy? (who : Text) (rights : Nat) (clause : Text) : Nat → Option Nat
  | 0 => none
  | steps + 1 =>
    match clause with
    | [] => some rights
    | sign :: rest =>
      if sign ∈ ['+', '-', '='] then
        let letters := rest.takeWhile fun c => c ∉ ['+', '-', '=']
        if letters.all fun c => c ∈ ['r', 'w', 'x', 'X', 's', 't', 'u', 'g', 'o'] then
          changedBy? who (changed rights who sign letters) (rest.drop letters.length) steps
        else none
      else none

/-- The rights after a clause. -/
def changedByClause? (rights : Nat) (clause : Text) : Option Nat :=
  let who := clause.takeWhile fun c => c ∈ ['u', 'g', 'o', 'a']
  let rest := clause.drop who.length
  let all := who.isEmpty || who.contains 'a'
  if rest.isEmpty then none
  else changedBy? (if all then ['u', 'g', 'o'] else who) rights rest (rest.length + 1)

/-- The letters of the rights of a class of users. -/
def rightLetters (rights : Nat) : Text :=
  (if rights / 4 % 2 = 1 then ['r'] else []) ++ (if rights / 2 % 2 = 1 then ['w'] else [])
    ++ if rights % 2 = 1 then ['x'] else []

/-- A mask as it is shown: what it leaves, or the mask itself. -/
def shownMask (inLetters : Bool) (mask : Nat) : Text :=
  if inLetters then
    let of (c : Char) : Text := c :: '=' :: rightLetters (rightsOf (maskCount - 1 - mask) c)
    Text.join "," [of 'u', of 'g', of 'o'] ++ "\n"
  else
    let digits := Nat.toDigits 8 mask
    List.replicate (4 - digits.length) '0' ++ digits ++ "\n"

/-- Shows or sets the mask for new files. -/
def umaskCommand (arguments : List Text) : Action Nat := do
  let (flags, modes) ← options "S" arguments
  let mask := (← get).mask
  let set (mask : Nat) : Action Nat := do
    modify fun session => { session with mask }
    return 0
  match modes with
  | [] =>
    putText (shownMask (!flags.isEmpty) mask)
    return 0
  | [] :: _ => return 0
  | text :: _ =>
    if text.head?.any Char.isDigit then
      if text.any fun c => c < '0' || '7' < c then raise ("Illegal number: " ++ text)
      set (valueOf 8 text % maskCount)
    else
      match (Text.splitOn ',' text).foldlM changedByClause? (maskCount - 1 - mask) with
      | some rights => set (maskCount - 1 - rights)
      | none => raise ("Illegal mode: " ++ text)

end QuineRelay.Shell.Builtin
