import QuineRelay.Shell.Expansion

/-!
# Redirections

Leading descriptors elsewhere for the time of a command. The targets of all
redirections of a command are expanded before the first file is opened.
-/

namespace QuineRelay.Shell

/-- Where a redirection leads its descriptor. -/
inductive RedirectTarget where
  | file (mode : OpenMode) (name : Text)
  /-- To where another descriptor leads, or nowhere. -/
  | descriptor (other : Option Nat)
  | document (body : Word)

namespace Redirection

open Session

variable (capture : Command → Action Text)

/-- The descriptor that a target names; `-` stands for none. -/
def descriptorOf (text : Text) : Action (Option Nat) :=
  match text with
  | ['-'] => return none
  | [c] =>
    if c.isDigit then return some (c.toNat - '0'.toNat) else raise "Syntax error: Bad fd number"
  | _ => raise "Syntax error: Bad fd number"

/-- Expands the target of a redirection. -/
def target : Redirect → Action (Nat × RedirectTarget)
  | .mk descriptor kind word => do
    match kind with
    | .document number => return (descriptor, .document ((← get).documents.getD number []))
    | _ =>
      let text ← Expansion.expandText capture { tilde := true } word
      match kind with
      | .duplicate => return (descriptor, .descriptor (← descriptorOf text))
      | .read => return (descriptor, .file .read text)
      | .readWrite => return (descriptor, .file .readWrite text)
      | .append => return (descriptor, .file .append text)
      | .overwrite => return (descriptor, .file .write text)
      | _ =>
        let isProtected := has (← get).toProcess 'C'
        return (descriptor, .file (if isProtected then .create else .write) text)

/-- Expands the targets of redirections. -/
def targets (redirects : List Redirect) : Action (List (Nat × RedirectTarget)) :=
  redirects.mapM (target capture)

/-- The reason why a file cannot be opened, as the shell words it. -/
def reason (isReading : Bool) (e : FileError) : Text :=
  match e with
  | .missing | .notDirectory => if isReading then "No such file" else "Directory nonexistent"
  | _ => e.reason

/-- Leads a descriptor to its target. -/
def apply (entry : Nat × RedirectTarget) : Action Unit := do
  let (descriptor, target) := entry
  match target with
  | .file mode name =>
    match ← openStream mode name with
    | .ok index => lead descriptor (some index)
    | .error e =>
      let verb : Text := if mode = .read then "open " else "create "
      raise ("cannot " ++ verb ++ name ++ ": " ++ reason (mode = .read) e)
  | .descriptor none => lead descriptor none
  | .descriptor (some other) =>
    if other ≠ descriptor then
      match (← get).streamIndex? other with
      | some index => lead descriptor (some index)
      | none => raise (Text.decimal other ++ ": " ++ StreamFault.reason .notOpen)
  | .document body =>
    let text ← Expansion.expandText capture { isQuoted := true } body
    lead descriptor (some (← addStream (.source (toBytes text))))

/-- Runs an action and gives what interrupts it. -/
def attempt {α : Type} (action : Action α) : Action (Except Interruption α) :=
  ExceptT.mk (do return .ok (← action.run))

/-- Goes on with the result of an attempt. -/
def resume {α : Type} (result : Except Interruption α) : Action α :=
  match result with
  | .ok value => return value
  | .error interruption => throw interruption

/-- Leads descriptors back to where they led before. -/
def restore (before : List (Nat × Nat)) (entries : List (Nat × RedirectTarget)) : Action Unit :=
  entries.forM fun entry => lead entry.1 (before.lookup entry.1)

/-- Leads descriptors to their targets one after the other. A target that cannot be
reached is reported, and gives the status of the error. -/
def applyAll (entries : List (Nat × RedirectTarget)) : Action (Option Nat) := do
  match ← attempt (entries.forM (apply capture)) with
  | .ok _ => return none
  | .error .error => return some (← get).status
  | .error interruption => throw interruption

/-- Runs an action with descriptors led to their targets. When that is not possible
the action is `failing`, which gets the status of the error. -/
def within (entries : List (Nat × RedirectTarget)) (failing : Nat → Action Nat)
    (action : Action Nat) : Action Nat := do
  if entries.isEmpty then action
  else
    let before := (← get).descriptors
    match ← applyAll capture entries with
    | some status =>
      restore before entries
      failing status
    | none =>
      let result ← attempt action
      restore before entries
      resume result

end Redirection

end QuineRelay.Shell
