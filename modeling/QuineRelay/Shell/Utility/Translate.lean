import QuineRelay.Shell.Pattern
import QuineRelay.Shell.Utility.Usage

/-!
# Translating octets

The utility `tr`: every octet of the input that is in the first set is replaced by
the one at the same place of the second set, or deleted, and repeated octets are
squeezed into one. A set is written as octets, ranges, classes and repetitions.
-/

namespace QuineRelay.Shell.Utility

open Session

/-- An element of a set as it is written. -/
inductive SetElement where
  | octet (c : Char)
  | range (first last : Char)
  | charClass (name : Text) (members : List Char)
  | equivalence (c : Char)
  /-- One octet so many times; none for as often as it takes. -/
  | repeated (c : Char) (count : Option Nat)
  deriving Repr

/-- All octets in order. -/
def allOctets : List Char :=
  (List.range octetLimit).map Char.ofNat

/-- The members of an element. -/
def SetElement.members : SetElement → List Char
  | .octet c => [c]
  | .range first last =>
    (List.range' first.toNat (last.toNat + 1 - first.toNat)).map Char.ofNat
  | .charClass _ members => members
  | .equivalence c => [c]
  | .repeated c count => List.replicate (count.getD 0) c

/-- Number of members of an element. -/
def SetElement.size : SetElement → Nat
  | .octet _ | .equivalence _ => 1
  | .range first last => last.toNat + 1 - first.toNat
  | .charClass _ members => members.length
  | .repeated _ count => count.getD 0

/-- Number of members of a set. -/
def setSize (elements : List SetElement) : Nat :=
  elements.foldl (fun size element => size + element.size) 0

/-- Whether an element repeats as often as it takes. -/
def SetElement.isIndefinite : SetElement → Bool
  | .repeated _ none => true
  | _ => false

/-- The name of a class whose members have a case, if the element is one. -/
def SetElement.case? : SetElement → Option Text
  | .charClass name _ => if name = "upper" || name = "lower" then some name else none
  | _ => none

/-- Whether an element is a class. -/
def SetElement.isClass : SetElement → Bool
  | .charClass .. => true
  | _ => false

/-- Whether an element is an equivalence class. -/
def SetElement.isEquivalence : SetElement → Bool
  | .equivalence _ => true
  | _ => false

/-- Why sets cannot be used. -/
inductive SetFault where
  | reversedRange (first last : Text)
  | unnamedClass
  | unknownClass (name : Text)
  | emptyEquivalence
  | longEquivalence (inside : Text)
  | badCount (count : Text)
  | repetitionInFirst
  | twoRepetitions
  | repetitionUntranslated
  | equivalenceInSecond
  | classInSecond
  | misaligned
  | emptySecond
  | classAtEnd
  | classNotUniform
  deriving DecidableEq, Repr

/-- The wording of a fault. -/
def SetFault.message : SetFault → Text
  | .reversedRange first last =>
    "range-endpoints of '" ++ first ++ "-" ++ last ++ "' are in reverse collating sequence order"
  | .unnamedClass => "missing character class name '[::]'"
  | .unknownClass name => "invalid character class " ++ quotedArgument name
  | .emptyEquivalence => "missing equivalence class character '[==]'"
  | .longEquivalence inside => inside ++ ": equivalence class operand must be a single character"
  | .badCount count => "invalid repeat count " ++ quotedArgument count ++ " in [c*n] construct"
  | .repetitionInFirst => "the [c*] repeat construct may not appear in string1"
  | .twoRepetitions => "only one [c*] repeat construct may appear in string2"
  | .repetitionUntranslated =>
    "the [c*] construct may appear in string2 only when translating"
  | .equivalenceInSecond => "[=c=] expressions may not appear in string2 when translating"
  | .classInSecond =>
    "when translating, the only character classes that may appear in\n"
      ++ "string2 are 'upper' and 'lower'"
  | .misaligned => "misaligned [:upper:] and/or [:lower:] construct"
  | .emptySecond => "when not truncating set1, string2 must be non-empty"
  | .classAtEnd =>
    "when translating with string1 longer than string2,\n"
      ++ "the latter string must not end with a character class"
  | .classNotUniform =>
    "when translating with complemented character classes,\n"
      ++ "string2 must map all characters in the domain to one"

/-- An octet of a set, with whether a backslash took its meaning away. -/
abbrev SetChar := Char × Bool

/-- The octets that a set is written with, and the warnings about it. Octets and
warnings so far are in reverse; every step reads one octet. -/
def unquoteFrom (done : List SetChar) (warnings : List Text) (text : Text) :
    Nat → List SetChar × List Text
  | 0 => (done.reverse, warnings.reverse)
  | steps + 1 =>
    match text with
    | [] => (done.reverse, warnings.reverse)
    | ['\\'] =>
      let warning : Text := "warning: an unescaped backslash at end of string is not portable"
      ((('\\', false) :: done).reverse, (warning :: warnings).reverse)
    | '\\' :: c :: rest =>
      let plain (c : Char) : List SetChar × List Text :=
        unquoteFrom ((c, true) :: done) warnings rest steps
      match c with
      | 'a' => plain (Char.ofNat 7)
      | 'b' => plain (Char.ofNat 8)
      | 'f' => plain (Char.ofNat 12)
      | 'n' => plain '\n'
      | 'r' => plain '\r'
      | 't' => plain '\t'
      | 'v' => plain (Char.ofNat 11)
      | _ =>
        let digits := ((c :: rest).take 3).takeWhile fun d => '0' ≤ d && d ≤ '7'
        if digits.isEmpty then plain c
        else if octetLimit ≤ valueOf 8 digits then
          let short := digits.take 2
          let last := digits.drop 2
          let warning : Text := "warning: the ambiguous octal escape \\" ++ digits
            ++ " is being\n\tinterpreted as the 2-byte sequence \\0" ++ short ++ ", " ++ last
          unquoteFrom ((Char.ofNat (valueOf 8 short), true) :: done) (warning :: warnings)
            (rest.drop 1) steps
        else
          unquoteFrom ((Char.ofNat (valueOf 8 digits), true) :: done) warnings
            ((c :: rest).drop digits.length) steps
    | c :: rest => unquoteFrom ((c, false) :: done) warnings rest steps

/-- An octet of a set as messages show it. -/
def shownOctet (c : Char) : Text :=
  if c = '\\' then "\\\\"
  else if isPrintable c then [c]
  else match controlLetter? c with
    | some letter => ['\\', letter]
    | none => '\\' :: octalDigits c

/-- Octets of a set as messages show them. -/
def shownOctets (octets : List SetChar) : Text :=
  octets.flatMap fun entry => shownOctet entry.1

/-- The octets up to a mark and a closing bracket, and those behind them. `done`
holds the octets so far, in reverse. -/
def upToClosing? (mark : Char) (done : List SetChar) :
    List SetChar → Option (List SetChar × List SetChar)
  | (c, false) :: (']', false) :: rest =>
    if c = mark then some (done.reverse, rest)
    else upToClosing? mark ((c, false) :: done) ((']', false) :: rest)
  | entry :: rest => upToClosing? mark (entry :: done) rest
  | [] => none

/-- Whether a star, digits and a closing bracket come next. -/
def isRepetition : List SetChar → Bool
  | ('*', false) :: rest =>
    (rest.dropWhile fun entry => entry.1.isDigit && !entry.2).head? = some (']', false)
  | _ => false

/-- A repetition behind its bracket, and the octets behind it; none when there is no
repetition. -/
def repetition? : List SetChar → Option (Except SetFault (SetElement × List SetChar))
  | (c, _) :: ('*', false) :: rest =>
    let inside := rest.takeWhile fun entry => entry.1 ≠ ']' && !entry.2
    match rest.drop inside.length with
    | (']', false) :: after =>
      let text := inside.map Prod.fst
      let base := if text.head? = some '0' then 8 else 10
      if text.isEmpty then some (.ok (.repeated c none, after))
      else if text.all fun d => (digitValue? base d).isSome then
        let count := valueOf base text
        some (.ok (.repeated c (if count = 0 then none else some count), after))
      else
        some (.error (.badCount (shownOctets inside)))
    | _ => none
  | _ => none

/-- A class behind its bracket, and the octets behind it; none when there is no
class. -/
def bracketed? : List SetChar → Option (Except SetFault (SetElement × List SetChar))
  | (':', false) :: rest =>
    match upToClosing? ':' [] rest with
    | none => none
    | some ([], _) => some (.error .unnamedClass)
    | some (inside, after) =>
      let name := inside.map Prod.fst
      match Pattern.classes.lookup name with
      | some holds => some (.ok (.charClass name (allOctets.filter holds), after))
      | none =>
        if isRepetition rest then none
        else some (.error (.unknownClass (shownOctets inside)))
  | ('=', false) :: rest =>
    match upToClosing? '=' [] rest with
    | none => none
    | some ([], _) => some (.error .emptyEquivalence)
    | some ([(c, _)], after) => some (.ok (.equivalence c, after))
    | some (inside, _) =>
      if isRepetition rest then none
      else some (.error (.longEquivalence (shownOctets inside)))
  | _ => none

/-- The elements of a set. Elements so far are in reverse; every step reads one. -/
def elementsFrom (done : List SetElement) (octets : List SetChar) :
    Nat → Except SetFault (List SetElement)
  | 0 => .ok done.reverse
  | steps + 1 =>
    match octets with
    | [] => .ok done.reverse
    | (c, isEscaped) :: rest =>
      let construct : Option (Except SetFault (SetElement × List SetChar)) :=
        if c = '[' && !isEscaped && 2 ≤ rest.length then (bracketed? rest).or (repetition? rest)
        else none
      match construct with
      | some (.error fault) => .error fault
      | some (.ok (element, rest)) => elementsFrom (element :: done) rest steps
      | none =>
        match rest with
        | ('-', false) :: (last, _) :: rest =>
          if last < c then
            .error (.reversedRange (shownOctet c) (shownOctet last))
          else elementsFrom (.range c last :: done) rest steps
        | _ => elementsFrom (.octet c :: done) rest steps

/-- What a translation is asked to do. -/
structure Translation where
  complements : Bool
  deletes : Bool
  squeezes : Bool
  truncates : Bool

/-- The last member of an element. -/
def SetElement.last (element : SetElement) : Char :=
  match element with
  | .repeated c _ => c
  | _ => element.members.getLastD '\x00'

/-- Whether the classes with a case in the second set stand where the first set has
one too, and the numbers of members that such pairs hide in both sets. Elements are
given with the members they have left; every step compares two members. -/
def alignedFrom (isNew₁ isNew₂ : Bool) (hidden₁ hidden₂ : Nat) (first second : List SetElement) :
    Nat → Option (Nat × Nat)
  | 0 => some (hidden₁, hidden₂)
  | steps + 1 =>
    match first, second with
    | a :: restA, b :: restB =>
      let caseA := a.case?
      let caseB := b.case?
      if isNew₂ && caseB.isSome && !(isNew₁ && caseA.isSome) then none
      else if caseB.isSome then
        alignedFrom true true (hidden₁ + (a.size - 1)) (hidden₂ + (b.size - 1)) restA restB steps
      else
        let left (element : SetElement) (rest : List SetElement) : Bool × List SetElement :=
          match element.members with
          | _ :: c :: others => (false, (match element.case? with
            | some name => .charClass name (c :: others)
            | none => .charClass [] (c :: others)) :: rest)
          | _ => (true, rest)
        let (isNew₁, first) := left a restA
        let (isNew₂, second) := left b restB
        alignedFrom isNew₁ isNew₂ hidden₁ hidden₂ first second steps
    | [], b :: _ => if isNew₂ && b.case?.isSome then none else some (hidden₁, hidden₂)
    | _, [] => some (hidden₁, hidden₂)

/-- The pairs of octets that a translation exchanges. A pair of classes with a case
changes the case. -/
def pairsFrom (first second : List SetElement) : Nat → List (Char × Char)
  | 0 => []
  | steps + 1 =>
    match first, second with
    | a :: restA, b :: restB =>
      match a.case?, b.case? with
      | some caseA, some caseB =>
        let members := a.members
        let changed :=
          if caseA = caseB then []
          else if caseB = "upper" then members.map fun c => (c, c.toUpper)
          else members.map fun c => (c, c.toLower)
        changed ++ pairsFrom restA restB steps
      | _, _ =>
        let membersA := a.members
        let membersB := b.members
        let size := min membersA.length membersB.length
        let rest (members : List Char) (others : List SetElement) : List SetElement :=
          if members.length = size then others else .charClass [] (members.drop size) :: others
        membersA.zip membersB ++ pairsFrom (rest membersA restA) (rest membersB restB) steps
    | _, _ => []

namespace Translation

variable (translation : Translation)

/-- Number of octets that the first set stands for. -/
def firstSize (first : List SetElement) : Nat :=
  if translation.complements then
    let members := first.flatMap SetElement.members
    allOctets.countP fun c => !members.contains c
  else setSize first

/-- The second set with its indefinite repetition as long as the first set asks
for. -/
def fitted (size : Nat) (second : List SetElement) : List SetElement :=
  let missing := size - setSize second
  second.map fun element =>
    match element with
    | .repeated c none => .repeated c (some missing)
    | _ => element

/-- The second set with enough repetitions of its last member, where the pairs of
classes with a case are left out of the count. -/
def extended (size : Nat) (hidden : Nat × Nat) (second : List SetElement) :
    Except SetFault (List SetElement) :=
  let size₁ := size - hidden.1
  let size₂ := setSize second - hidden.2
  if size₂ < size₁ && !translation.truncates then
    match second.getLast? with
    | some last =>
      if size₂ = 0 then .error .emptySecond
      else if last.isClass then .error .classAtEnd
      else .ok (second ++ [.repeated last.last (some (size₁ - size₂))])
    | none => .error .emptySecond
  else .ok second

/-- The second set as it is used for exchanging octets, or why the two sets cannot
be used together. -/
def paired (first second : List SetElement) : Except SetFault (List SetElement) := do
  let size := translation.firstSize first
  let second := if setSize second ≤ size then fitted size second else second
  if second.any SetElement.isEquivalence then throw .equivalenceInSecond
  if second.any fun element => element.isClass && element.case?.isNone then throw .classInSecond
  let isCased : Bool := !translation.complements && second.any SetElement.isClass
  let visible (elements : List SetElement) : List SetElement :=
    elements.filter fun element => element.size ≠ 0
  let hidden? :=
    if isCased then
      alignedFrom true true 0 0 (visible first) (visible second) (size + setSize second + 1)
    else some (0, 0)
  match hidden? with
  | none => throw .misaligned
  | some hidden =>
    let second ← translation.extended size hidden second
    let members := second.flatMap SetElement.members
    let isUniform : Bool := members.all fun c => some c = members.head?
    let fits : Bool := setSize second - hidden.2 = size - hidden.1 && isUniform && !members.isEmpty
    if translation.complements && first.any SetElement.isClass && !fits then
      throw .classNotUniform
    return second

/-- The second set as it is used, or why the two sets cannot be used together. -/
def checked (first : List SetElement) (second : Option (List SetElement)) :
    Except SetFault (List SetElement) := do
  if first.any SetElement.isIndefinite then throw .repetitionInFirst
  match second with
  | none => return []
  | some second =>
    let indefinite := second.countP SetElement.isIndefinite
    if 1 < indefinite then throw .twoRepetitions
    if !translation.deletes then translation.paired first second
    else if 0 < indefinite then throw .repetitionUntranslated
    else return second

/-- A text with octets of a set squeezed; `last` is the octet before. -/
def squeezeFrom (inSet : Char → Bool) (last : Option Char) (done : Text) : Text → Text
  | [] => done.reverse
  | c :: rest =>
    if last = some c && inSet c then squeezeFrom inSet last done rest
    else squeezeFrom inSet (some c) (c :: done) rest

/-- A test for the octets of a set that takes the same time for every set. -/
def membership (isTurned : Bool) (elements : List SetElement) : Char → Bool :=
  let members := elements.flatMap SetElement.members
  let table := (allOctets.map fun c => members.contains c != isTurned).toArray
  fun c => table.getD c.toNat false

/-- The octet that each octet is exchanged for. -/
def exchange (first second : List SetElement) : Char → Char :=
  let pairs :=
    if translation.complements then
      let members := first.flatMap SetElement.members
      (allOctets.filter fun c => !members.contains c).zip (second.flatMap SetElement.members)
    else pairsFrom first second (first.length + second.length + setSize first + setSize second + 1)
  let table := pairs.foldl (fun table pair => table.setIfInBounds pair.1.toNat pair.2)
    allOctets.toArray
  fun c => table.getD c.toNat c

/-- What is written for an input. -/
def apply (first second : List SetElement) (isAlone : Bool) (text : Text) : Text :=
  let inFirst := membership translation.complements first
  if translation.deletes then
    let kept := text.filter fun c => !inFirst c
    if translation.squeezes then squeezeFrom (membership false second) none [] kept else kept
  else if isAlone then squeezeFrom inFirst none [] text
  else
    let changed := text.map (translation.exchange first second)
    if translation.squeezes then squeezeFrom (membership false second) none [] changed
    else changed

end Translation

/-- The options of `tr`. -/
def translateOptions : OptionTable where
  short := ("AcCdst".toList).map fun c => (c, .none)
  long := [
    { name := "complement", letter := 'c' }, { name := "delete", letter := 'd' },
    { name := "squeeze-repeats", letter := 's' }, { name := "truncate-set1", letter := 't' },
    { name := "help", letter := '1' }, { name := "version", letter := '2' }]
  permutes := false

/-- Why a number of sets does not fit what is asked for, if it does not. -/
def setsFault? (translation : Translation) (sets : List Text) : Option Text :=
  let least := 1 + if translation.deletes = translation.squeezes then 1 else 0
  let most := 1 + if translation.deletes && !translation.squeezes then 0 else 1
  if sets.length < least then
    match sets.getLast? with
    | none => some "missing operand"
    | some last =>
      let reason : Text :=
        if translation.squeezes then
          "Two strings must be given when both deleting and squeezing repeats."
        else "Two strings must be given when translating."
      some ("missing operand after " ++ quotedArgument last ++ "\n" ++ reason)
  else if most < sets.length then
    let reason : Text :=
      if sets.length = 2 then
        "\nOnly one string may be given when deleting without squeezing repeats."
      else []
    some ("extra operand " ++ quotedArgument (sets.getD most []) ++ reason)
  else none

/-- The elements of a set, after its warnings were reported. -/
def readSet (text : Text) : Action (Except SetFault (List SetElement)) := do
  let (octets, warnings) := unquoteFrom [] [] text (text.length + 1)
  warnings.forM (report "tr")
  return elementsFrom [] octets (octets.length + 1)

/-- Translates the input to the output. -/
def translate (arguments : List Text) : Action Nat := do
  match read translateOptions arguments with
  | .error message => failUsage "tr" message
  | .ok usage =>
    let translation : Translation := {
      complements := usage.has 'c' || usage.has 'C', deletes := usage.has 'd'
      squeezes := usage.has 's', truncates := usage.has 't' }
    match setsFault? translation usage.operands with
    | some message => failUsage "tr" message
    | none =>
      let isAlone := usage.operands.length = 1
      match ← readSet (usage.operands.headD []) with
      | .error fault => fail "tr" fault.message
      | .ok first =>
        let second ← match usage.operands.tail with
          | text :: _ => do pure (some (← readSet text))
          | [] => pure none
        match second with
        | some (.error fault) => fail "tr" fault.message
        | _ =>
          match translation.checked first (second.bind Except.toOption) with
          | .error fault => fail "tr" fault.message
          | .ok second =>
            match (← get).unreadBytes 0 with
            | .error fault => fail "tr" ("read error: " ++ fault.reason)
            | .ok bytes =>
              modify fun session => session.skipBytes 0 bytes.length
              let translated := translation.apply first second isAlone (ofBytes bytes)
              if ← putBytes 1 (toBytes translated) then
                return 0
              else fail "tr" ("write error: " ++ StreamFault.reason .notOpen)

end QuineRelay.Shell.Utility
