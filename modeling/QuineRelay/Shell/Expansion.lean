import QuineRelay.Shell.Fields
import QuineRelay.Shell.Glob
import QuineRelay.Shell.Variables

/-!
# Expansion

What a word stands for: its tildes, parameters, commands and arithmetic are
replaced by their values, the result is cut into fields, and fields that are
patterns are replaced by the names they match.

Running the command of a substitution is handed in as `capture`, which gives what
the command wrote.
-/

namespace QuineRelay.Shell

/-- How a word is expanded. -/
structure ExpansionMode where
  /-- Whether the word is cut into fields. -/
  cuts : Bool := false
  /-- Whether a tilde at the front is expanded. -/
  tilde : Bool := false
  /-- Whether tildes are expanded behind the first equals sign and behind colons. -/
  assigns : Bool := false
  /-- Whether the characters of the word itself may separate fields. -/
  separable : Bool := false
  /-- Whether the word stands between quotation marks. -/
  isQuoted : Bool := false

/-- What a parameter stands for: one text, or arguments with what joins them. -/
inductive ParameterValue where
  | unset
  | text (text : Text)
  | arguments (texts : List Text) (joint : Text)

namespace Expansion

open Session

/-- The letters that the options of a shell have where they are listed. -/
def optionOrder : Text :=
  "pubaCEVvxsnmiIfe"

/-- The characters that join the arguments where they stand for one text. -/
def joint (process : Process) : Text :=
  match value? process "IFS" with
  | none => [' ']
  | some separators => separators.take 1

/-- The value of a parameter where `isQuoted` and `cuts` hold. -/
def valueOf (process : Process) (isQuoted cuts : Bool) (name : Text) : ParameterValue :=
  let ofOption (value : Option Text) : ParameterValue :=
    match value with
    | some text => .text text
    | none => .unset
  match name with
  | ['$'] => .text (Text.decimal process.rootNumber)
  | ['?'] => .text (Text.decimal process.status)
  | ['#'] => .text (Text.decimal process.arguments.length)
  | ['!'] => ofOption (process.lastJob.map Text.decimal)
  | ['-'] => .text (optionOrder.filter (has process))
  | ['@'] =>
    .arguments process.arguments (if cuts then [Glyph.argumentEnd] else joint process)
  | ['*'] =>
    .arguments process.arguments
      (if cuts && !isQuoted then [Glyph.argumentEnd] else joint process)
  | _ =>
    match Text.digits? name with
    | some 0 => .text process.name
    | some n => ofOption process.arguments[n - 1]?
    | none => ofOption (value? process name)

/-- The text of a value; none when the parameter is not set. -/
def ParameterValue.text? : ParameterValue → Option Text
  | .unset => none
  | .text text => some text
  | .arguments texts joint => some (Text.join joint texts)

/-- Whether a character that was substituted is escaped. -/
def escapes (isQuoted : Bool) (c : Char) : Bool :=
  isQuoted && (c = '\\' || c ∈ ['!', '*', '?', '[', '=', '~', ':', '/', '-', ']'])

/-- Adds a value. What is not quoted may separate fields, and so do the arguments
that are kept apart between quotation marks. -/
def addValue (word : Expanded) (mode : ExpansionMode) (process : Process) (name text : Text) :
    Expanded :=
  let added := word.addText (escapes mode.isQuoted) text
  if !mode.isQuoted then added.addRegion word.size false
  else if name = ['@'] && !process.arguments.isEmpty then added.addRegion word.size true
  else added

/-- Reports a parameter that is not set. -/
def complainUnset {α : Type} (name : Text) : Action α :=
  raise (name ++ ": parameter not set")

/-- The user name behind a tilde, up to a slash or, in an assignment, a colon; none
when something else stands there. `name` holds the characters before, in
reverse. -/
def userName? (assigns : Bool) (name : Text) : List Part → Option Text
  | [] => some name.reverse
  | .letter c false :: rest =>
    if c = '/' || (assigns && c = ':') then some name.reverse
    else userName? assigns (c :: name) rest
  | _ :: _ => none

/-- The home directory of a user. -/
def home? (process : Process) (name : Text) : Option Text :=
  if name.isEmpty then value? process "HOME"
  else if name = "root" then some "/root"
  else none

/-- The directory that a tilde at the front of a word stands for, and how many
characters it replaces. -/
def tilde? (process : Process) (assigns : Bool) : List Part → Option (Text × Nat)
  | .letter '~' false :: rest =>
    (userName? assigns [] rest).bind fun name =>
      (home? process name).map fun home => (home, name.length + 1)
  | _ => none

/-- Cuts off what a pattern matches at an end of the glyphs from `start` on. -/
def trimmed (word : Expanded) (start : Nat) (atEnd longest : Bool) (pattern : List PatternChar) :
    Expanded :=
  let glyphs := word.since start
  let text := Glyph.chars glyphs
  let kept :=
    if atEnd then ((Pattern.ending? pattern longest text).map glyphs.take).getD glyphs
    else ((Pattern.beginning? pattern longest text).map glyphs.drop).getD glyphs
  (word.cutTo start).addGlyphs kept

/-- The value of an expression, whose assignments are carried out. -/
def arithmeticValue (expression : Text) : Action Text := do
  let process := (← get).toProcess
  match Arithmetic.evaluate (value? process) expression with
  | .error fault => raise (fault.message expression)
  | .ok (n, assigned) =>
    assigned.forM fun entry => setVariable entry.1 (some (decimalInt entry.2))
    return decimalInt n

/-- A text without the newlines at its end, and without characters that no value
can hold. -/
def captured (text : Text) : Text :=
  ((text.filter (· ≠ '\x00')).reverse.dropWhile (· = '\n')).reverse

variable (capture : Command → Action Text)

mutual

/-- Expands a part that is no character. -/
def expandPart (mode : ExpansionMode) (word : Expanded) : Part → Action Expanded
  | .mark => return word
  | .letter _ _ => return word
  | .command body => do
    let text := captured (← capture body)
    let added := word.addText (escapes mode.isQuoted) text
    return if mode.isQuoted then added else added.addRegion word.size false
  | .arithmetic expression => do
    let inner ← expandParts {} false false 0 {} expression
    let text ← arithmeticValue inner.text
    let added := word.addText (escapes mode.isQuoted) text
    return if mode.isQuoted then added else added.addRegion word.size false
  | .parameter name modifier operand => do
    let process := (← get).toProcess
    let value := ParameterValue.text? (valueOf process mode.isQuoted mode.cuts name)
    let given (nullToo : Bool) : Option Text :=
      if nullToo && value = some [] then none else value
    let insert : Action Expanded := do
      match value with
      | some text => return addValue word mode process name text
      | none =>
        if has process 'u' then complainUnset name
        return word
    match modifier with
    | .bad => raise "Bad substitution"
    | .plain =>
      let word ← insert
      expandParts mode mode.isQuoted false 0 word operand
    | .length =>
      if value.isNone && has process 'u' then complainUnset name
      let length := (value.getD []).length
      return addValue word mode process ['#'] (Text.decimal length)
    | .default nullToo =>
      match given nullToo with
      | some text => return addValue word mode process name text
      | none =>
        expandParts { mode with tilde := true, separable := true } false mode.assigns
          0 word operand
    | .alternative nullToo =>
      match given nullToo with
      | none => return word
      | some _ =>
        expandParts { mode with tilde := true, separable := true } false mode.assigns
          0 word operand
    | .assign nullToo =>
      match given nullToo with
      | some text => return addValue word mode process name text
      | none =>
        let inner ← expandParts { tilde := true } false false 0 {} operand
        setVariable name (some inner.text)
        let isFirst := word.regions.isEmpty && inner.startsApart
        let word := if isFirst then word.addRegion word.size true else word
        return addValue word mode process name inner.text
    | .complain nullToo =>
      match given nullToo with
      | some text => return addValue word mode process name text
      | none =>
        let inner ← expandParts { tilde := true } false false 0 {} operand
        if operand.isEmpty then
          raise (name ++ ": parameter not set" ++ if nullToo then " or null" else "")
        raise (name ++ ": " ++ inner.text)
    | .trim atEnd longest =>
      match value with
      | none =>
        if has process 'u' then complainUnset name
        return word
      | some text =>
        let added := word.addText (escapes mode.isQuoted) text
        let inner ← expandParts { tilde := true } false false 0 {} operand
        let pattern := Glyph.pattern inner.glyphs.toList
        let cut := trimmed added word.size atEnd longest pattern
        if !mode.isQuoted then return cut.addRegion word.size false
        else if name = ['@'] && !process.arguments.isEmpty then
          return cut.addRegion word.size true
        else return cut

/-- Expands the parts of a word. `inside` tells whether a quotation mark is open,
`behindSign` whether the first equals sign of an assignment was read, and the next
`skip` characters are dropped. -/
def expandParts (mode : ExpansionMode) (inside behindSign : Bool) (skip : Nat)
    (word : Expanded) : List Part → Action Expanded
  | [] => return word
  | .mark :: .parameter ['@'] .plain [] :: .mark :: rest => do
    if inside then
      let word ← expandPart mode word.addMark (.parameter ['@'] .plain [])
      expandParts mode true behindSign 0 word.addMark rest
    else
      let word ← expandPart { mode with isQuoted := true } word (.parameter ['@'] .plain [])
      expandParts { mode with tilde := false } false behindSign 0 word rest
  | .mark :: rest =>
    expandParts { mode with tilde := false } (!inside) behindSign 0 word.addMark rest
  | .letter c isEscaped :: rest => do
    if 0 < skip then expandParts mode inside behindSign (skip - 1) word rest
    else
      let process := (← get).toProcess
      match
        if mode.tilde then tilde? process mode.assigns (.letter c isEscaped :: rest) else none with
      | some (home, count) =>
        let word := word.addText (escapes true) home
        expandParts { mode with tilde := false } inside behindSign (count - 1) word rest
      | none =>
        let isFree := mode.separable && !mode.isQuoted && !inside && !isEscaped
        let word :=
          if isFree then word.addSeparable c else word.addText (fun _ => isEscaped) [c]
        let startsValue := mode.assigns && !isEscaped
          && ((c = '=' && !behindSign) || (c = ':' && behindSign))
        let behindSign := behindSign || (mode.assigns && !isEscaped && c = '=')
        expandParts { mode with tilde := startsValue } inside behindSign 0 word rest
  | part :: rest => do
    let word ← expandPart { mode with isQuoted := mode.isQuoted || inside } word part
    expandParts { mode with tilde := false } inside behindSign 0 word rest

end

/-- Expands a word with the glyphs it stands for. -/
def expandWord (mode : ExpansionMode) (word : Word) : Action Expanded :=
  expandParts capture mode false false 0 {} word

/-- Expands a word that stands for one text. -/
def expandText (mode : ExpansionMode) (word : Word) : Action Text := do
  return (← expandWord capture mode word).text

/-- Expands a word that stands for a pattern. -/
def expandPattern (word : Word) : Action (List PatternChar) := do
  return Glyph.pattern (← expandWord capture { tilde := true } word).glyphs.toList

/-- The names that a field matches, or its own text when there are none. -/
def namesOf (session : Session) (field : List Glyph) : List Text :=
  let text := Glyph.chars field
  if has session.toProcess 'f' || !(text.any fun c => c ∈ ['*', '?', '[']) then [text]
  else
    match Glob.expand session.files session.directory (Glyph.pattern field) with
    | [] => [text]
    | names => names

/-- Expands a word that stands for any number of fields. -/
def expandFields (word : Word) : Action (List Text) := do
  let expanded ← expandWord capture { cuts := true, tilde := true } word
  let session ← get
  let fields := Fields.split (separators session.toProcess) none expanded
  return fields.flatMap (namesOf session)

/-- Expands words one after the other. -/
def expandAll (words : List Word) : Action (List Text) := do
  return (← words.mapM (expandFields capture)).flatten

end Expansion

end QuineRelay.Shell
