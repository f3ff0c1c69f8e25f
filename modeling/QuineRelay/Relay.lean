import QuineRelay.Origin

/-!
# Relays

A relay is a ring of programs: each stage prints the source of the next, and the
last prints the origin. `compose` builds one from a route. The origin is built
first; the other stages are predicted from the last to the first, each by
quoting the stage after it. No stage may exceed the size limit, and the first
failure in this order is the one that is reported.
-/

namespace QuineRelay

/-- One program of a relay. -/
structure Stage where
  toolchain : Toolchain
  /-- The source; the stage before prints it. -/
  source : Bytes
  deriving DecidableEq, Repr

/-- The programs of a relay, the origin first. -/
structure Relay where
  stages : List Stage
  ne_nil : stages ≠ []

/-- What a composition may choose. -/
structure Settings where
  /-- Characters on each line of the stored program. -/
  lineWidth : Nat := 80
  /-- Largest source, in bytes. -/
  sizeLimit : Nat := 16 * 1024 * 1024
  deriving DecidableEq, Repr

namespace Relay

/-- The relay with these stages, if there are any. -/
def ofStages? (stages : List Stage) : Option Relay :=
  if h : stages = [] then none else some ⟨stages, h⟩

/-- Number of stages. -/
def length (relay : Relay) : Nat :=
  relay.stages.length

theorem length_pos (relay : Relay) : 0 < relay.length :=
  List.length_pos_iff.2 relay.ne_nil

/-- The source of the program that starts the relay. -/
def origin (relay : Relay) : Bytes :=
  (relay.stages.head relay.ne_nil).source

/-- What stage `index` has to print: the source of the next stage, and after the
last stage the origin again. -/
def expectedOutput (relay : Relay) (index : Nat) : Bytes :=
  (relay.stages.get ⟨(index + 1) % relay.length, Nat.mod_lt _ relay.length_pos⟩).source

/-- Size of all sources together, in bytes. -/
def totalSize (relay : Relay) : Nat :=
  relay.stages.foldl (fun total stage => total + stage.source.length) 0

/-- Refuses a source over the size limit. -/
def checkSize (settings : Settings) (language : Text) (source : Bytes) :
    Except GenerationError Bytes :=
  if source.length ≤ settings.sizeLimit then .ok source
  else .error (.tooLarge language source.length settings.sizeLimit)

/-- A cause, named with the stage at which it arose. -/
def atStage {α : Type} (stage : Nat) (result : Except GenerationError α) :
    Except CompositionError α :=
  result.mapError (.generation stage)

/-- The stages of `languages`, the first of which has the given `index`, when the
last of them has to print `origin`. -/
def stagesFrom (settings : Settings) (origin : Bytes) (index : Nat) :
    List Language → Except CompositionError (List Stage)
  | [] => .ok []
  | language :: rest => do
    let later ← stagesFrom settings origin (index + 1) rest
    let payload := (later.head?.map Stage.source).getD origin
    let source ← atStage index
      ((language.generate payload).bind (checkSize settings language.name))
    return ⟨language.toolchain, source⟩ :: later

/-- The relay along `route` whose origin program is `origin`. The origin is taken
as it is, whatever its size. -/
def unroll (settings : Settings) (origin : Bytes) (route : Route) :
    Except CompositionError Relay := do
  let stages ← stagesFrom settings origin 1 route.languages
  return ⟨⟨Language.origin, origin⟩ :: stages, List.cons_ne_nil _ _⟩

/-- The relay along `route` that reproduces its origin after one trip. -/
def compose (settings : Settings) (route : Route) : Except CompositionError Relay := do
  let origin ← atStage 0
    ((Origin.embed (Origin.program route) settings.lineWidth).bind
      (checkSize settings Language.origin.name))
  unroll settings origin route

end Relay

end QuineRelay
