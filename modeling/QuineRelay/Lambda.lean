import QuineRelay.Text.Basic

/-!
# The origin's lambdas

The origin program regenerates the first stage when it runs. It does so with
lambdas in its own language, one for each form of quoting that changes the
payload, on top of two helpers: `h` decodes hexadecimal digits and `m` applies
an escape table.
-/

namespace QuineRelay

/-- The helpers that every lambda uses. -/
def lambdaHelpers : Text :=
  "h=->(x)\x7b[x].pack(\"H*\").force_encoding(\"utf-8\")\x7d\n" ++
  "m=->(s,t)\x7bs.gsub(/./m)\x7b|x|t[x]||x\x7d\x7d\n"

/-- A lambda that quotes its first argument. -/
inductive Lambda where
  /-- Quotes it as one literal. -/
  | escape
  /-- Quotes it piece by piece. -/
  | pieces
  /-- Writes it as a tape program. -/
  | tape
  deriving DecidableEq, Repr

namespace Lambda

/-- Every lambda, in the order in which the origin defines them. -/
def all : List Lambda := [.escape, .pieces, .tape]

/-- The variable that holds the lambda. -/
def name : Lambda → Text
  | .escape => "xe"
  | .pieces => "xp"
  | .tape => "xb"

/-- The line that defines the lambda. -/
def definition : Lambda → Text
  | .escape => "xe=->(s,p,q,t,c)\x7bp+m[s[0,s.size-c],t]+q\x7d\n"
  | .pieces =>
    "xp=->(s,p,q,i,j,k,t,w)\x7bp+(w>0 ? s.scan(/.\x7b1,#\x7bw\x7d\x7d/m) : s.lines)" ++
    ".map\x7b|x|i+m[x,t]+j\x7d*k+q\x7d\n"
  | .tape =>
    "xb=->(s,p,q)\x7bl=0;p+s.bytes.map\x7b|b|d=b-l;l=b;(d>0 ? \"+\"*d : \"-\"*-d)+\".\"\x7d" ++
    "*\"\"+q\x7d\n"

end Lambda

end QuineRelay
