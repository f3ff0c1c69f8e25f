import QuineRelay.Text.CaseTable

/-!
# Letter case

Two comparisons that ignore case. Language names are compared over ASCII
letters alone (`sameLetters`); a filter is compared after `lowercase`, which
covers the capitals of all scripts.
-/

namespace QuineRelay.Text

/-- Whether two texts differ at most in the case of ASCII letters. -/
def sameLetters (a b : Text) : Bool :=
  a.map Char.toLower == b.map Char.toLower

/-- The small form of a character, whatever stands around it. A capital I with a
dot keeps its dot as an accent; every other capital has a single small letter. -/
def lowerChar (c : Char) : Text :=
  if c.toNat < 0x80 then [c.toLower]
  else if c.toNat = 0x130 then ['i', Char.ofNat 0x307]
  else
    match capitalRanges.findSome? fun range => range.small? c.toNat with
    | some n => [Char.ofNat n]
    | none => [c]

/-- The capital sigma, whose small form depends on the letters around it. -/
def sigma : Char := Char.ofNat 0x3A3

/-- Whether a letter comes next, apart from accents and the like. -/
def reachesLetter (text : Text) : Bool :=
  match text.dropWhile (inRanges caseIgnorableRanges) with
  | [] => false
  | c :: _ => inRanges casedRanges c

/-- The small sigma between two texts, the first of which is in reverse: at the end
of a word it has a form of its own. -/
def lowerSigma (before after : Text) : Char :=
  if reachesLetter before && !reachesLetter after then Char.ofNat 0x3C2 else Char.ofNat 0x3C3

/-- `text` in small letters, where `before` stands in front of it in reverse. -/
def lowercaseFrom (before : Text) : Text → Text
  | [] => []
  | c :: rest =>
    (if c = sigma then [lowerSigma before rest] else lowerChar c)
      ++ lowercaseFrom (c :: before) rest

/-- `text` in small letters. -/
def lowercase (text : Text) : Text :=
  lowercaseFrom [] text

end QuineRelay.Text
