import QuineRelay.GenerationError
import QuineRelay.Language.Standard
import QuineRelay.Placeholder
import QuineRelay.Route
import QuineRelay.Text.Split
import QuineRelay.Text.Utf8

/-!
# The origin program

The origin starts and ends the relay. Its file has the form

    eval$s=%q(eval((%w(
    stored program, cut into lines
    )*"")restorer))

Running it binds `$s` to all that stands between the outer parentheses, joins
the words of the inner ones, restores the program and evaluates it. The program
defines the lambdas it needs and prints one expression: the text of this very
file, rebuilt from `$s`, inside one call for each language, the last language
innermost.

Both pairs of parentheses close where they should because the stored program and
the restorer are balanced and hold no backslash; `embed` checks this.
-/

namespace QuineRelay.Origin

/-- The expression whose value is the text of the origin's own file. -/
def selfExpression : Text := "(%(eval$s=%q(#$s))+10.chr)"

/-- The beginning of the file, up to the text that `$s` holds. -/
def head : Text := "eval$s=%q("

/-- The end of the file, after the text that `$s` holds. -/
def foot : Text := ")\n"

/-- The expression `seed` inside the calls of all languages, the last language
innermost. What stands before the seed is written in route order and what stands
after it in the opposite order, so no part is copied once for each call. -/
def fold (seed : Text) (route : Route) : Text :=
  route.languages.flatMap (fun language => language.call.opening) ++ seed
    ++ route.languages.reverse.flatMap (fun language => language.call.closing)

/-- The fold wraps the calls around the seed one after the other. -/
theorem fold_eq_foldr (seed : Text) (route : Route) :
    fold seed route =
      route.languages.foldr (fun language inner => language.call.wrap inner) seed := by
  unfold fold
  induction route.languages with
  | nil => simp
  | cons language languages ih =>
      rw [List.foldr_cons, ← ih]
      simp [Call.wrap]

/-- The program that the origin evaluates: helpers, the lambdas the route needs,
and one expression that prints the first stage. -/
def program (route : Route) : Text :=
  lambdaHelpers ++ route.lambdas.flatMap Lambda.definition ++ "$><<" ++ fold selfExpression route
    ++ "\n"

/-- The first fault of a text between parentheses, with its byte offset. The text
starts at `offset`, and `depth` parentheses are open there. -/
def embedFaultFrom? (offset depth : Nat) : Text → Option (Nat × EmbedFault)
  | [] => if depth = 0 then none else some (offset, .unclosedOpening)
  | c :: rest =>
    if c = '\\' then some (offset, .backslash)
    else if c = '(' then embedFaultFrom? (offset + 1) (depth + 1) rest
    else if c = ')' then
      match depth with
      | 0 => some (offset, .unbalancedClosing)
      | depth + 1 => embedFaultFrom? (offset + 1) depth rest
    else embedFaultFrom? (offset + Utf8.charSize c) depth rest

/-- Refuses a text that cannot stand between the parentheses of a literal: one
with unbalanced parentheses or a backslash. -/
def checkEmbeddable (text : Text) : Except GenerationError Unit :=
  match embedFaultFrom? 0 0 text with
  | some (offset, fault) => .error (.unembeddable Language.origin.name offset fault)
  | none => .ok ()

/-- The stored form of a program, as text. -/
def store (program : Text) : Except GenerationError Text :=
  match Utf8.decode (Placeholder.substitute (Utf8.encode program)) with
  | .ok text => .ok text
  | .error fault => .error (.unembeddable Language.origin.name fault.offset .notText)

/-- The lines of the stored program, each ended by a newline. -/
def wordLines (width : Nat) (stored : Text) : Text :=
  (Text.chunks width stored).flatMap fun line => line ++ ['\n']

/-- The file that evaluates `program`, stored in lines of `width` characters. A
width of zero counts as one. -/
def embed (program : Text) (width : Nat) : Except GenerationError Bytes := do
  let stored ← store program
  checkEmbeddable stored
  checkEmbeddable Placeholder.restorer
  return Utf8.encode (head ++ "eval((%w(\n" ++ wordLines width stored ++ ")*\"\")"
    ++ Placeholder.restorer ++ ")" ++ foot)

/-- The text that `$s` holds while the file `source` runs. -/
def selfText? (source : Text) : Option Text :=
  (Text.afterOpening? head source).bind (Text.beforeEnding? foot)

end QuineRelay.Origin
