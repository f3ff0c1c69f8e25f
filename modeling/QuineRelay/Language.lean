import QuineRelay.Lambda.Call
import QuineRelay.Toolchain

/-!
# Relay languages

A language of the relay: how its programs are stored and run, and how they hold
a payload.
-/

namespace QuineRelay

/-- A language that a relay can visit. -/
structure Language where
  toolchain : Toolchain
  quoting : Quoting
  deriving DecidableEq, Repr

namespace Language

/-- Display name of the language. -/
def name (language : Language) : Text :=
  language.toolchain.name

/-- The source of a program in this language that prints `payload`. -/
def generate (language : Language) (payload : Bytes) : Except GenerationError Bytes :=
  (language.quoting.write language.name payload).map Utf8.encode

/-- The call by which the origin writes this language. -/
def call (language : Language) : Call :=
  language.quoting.call

end Language

end QuineRelay
