import QuineRelay.CompositionError
import QuineRelay.Language.Standard
import QuineRelay.Text.Quoted

/-!
# Routes

A route is the sequence of languages that a relay visits after the origin. It is
never empty, and it closes on itself: the last language prints the origin again.
Routes are written as comma-separated language names.
-/

namespace QuineRelay

/-- The languages of a relay after the origin, in order. -/
structure Route where
  languages : List Language
  ne_nil : languages ≠ []

namespace Route

/-- The route through `languages`. -/
def ofList (languages : List Language) : Except CompositionError Route :=
  if h : languages = [] then .error .emptyRoute else .ok ⟨languages, h⟩

/-- The standard language with a name that a user gave. -/
def languageNamed (name : Text) : Except CompositionError Language :=
  match Language.find? name with
  | some language => .ok language
  | none => .error (.unknownLanguage name)

/-- The route through the standard languages with these names. The first unknown
name is reported. -/
def ofNames (names : List Text) : Except CompositionError Route := do
  ofList (← names.mapM languageNamed)

/-- The route through all standard languages. -/
def standard : Route :=
  ⟨Language.standard, by decide⟩

/-- The route that a comma-separated list names, without its blank items; the
standard route when there is no list. -/
def ofNameList (names : Option Text) : Except CompositionError Route :=
  match names with
  | none => .ok standard
  | some list => ofNames ((Text.splitOn ',' list).filter fun name => !(Text.trim name).isEmpty)

/-- Number of stages of a relay along this route, with the origin. -/
def stageCount (route : Route) : Nat :=
  route.languages.length + 1

/-- The toolchain of every stage, the origin's first. -/
def toolchains (route : Route) : List Toolchain :=
  Language.origin :: route.languages.map Language.toolchain

/-- The lambdas that the languages of the route call, each once, in the order in
which the origin defines them. -/
def lambdas (route : Route) : List Lambda :=
  Lambda.all.filter fun lambda => route.languages.any fun language =>
    language.call.lambda == some lambda

/-- The names along the route, for diagnostics. -/
def summary (route : Route) : Text :=
  "[" ++ Text.join ", " (route.toolchains.map fun toolchain => Text.quoted toolchain.name) ++ "]"

end Route

end QuineRelay
