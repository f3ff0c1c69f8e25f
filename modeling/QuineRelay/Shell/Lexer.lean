import QuineRelay.Shell.Reader

/-!
# Words and tokens

How characters become words. A word is read in a stack of contexts: between
quotation marks, in an arithmetic expression, or in the operand of a substitution
the same character means different things, and contexts can be nested in each
other.

The command of a substitution is read by the parser of commands, which is handed
in as `nested` and is told whether a closing parenthesis has to follow. The text
between backquotes is first freed of its backslashes and then read on its own.
-/

namespace QuineRelay.Shell

/-- What quotes the characters that are read. -/
inductive QuoteStyle where
  | none | double | single | arithmetic
  deriving DecidableEq, Repr

/-- What surrounds the characters that are read. -/
structure QuoteContext where
  style : QuoteStyle := .none
  /-- Whether double quotes are open here or around the context. -/
  isDouble : Bool := false
  /-- Whether double quotes are open inside an operand. -/
  isInner : Bool := false
  /-- Whether the context was opened for an operand of its own. -/
  isPushed : Bool := false
  /-- Number of open substitutions. -/
  braces : Nat := 0
  /-- Number of open substitutions between double quotes. -/
  quotedBraces : Nat := 0
  /-- Number of open parentheses of an arithmetic expression. -/
  parens : Nat := 0

/-- What a part of a word that is still open will become. -/
inductive Opening where
  | parameter (name : Text) (modifier : Modifier)
  | arithmetic

/-- A word so far. Parts are in reverse. -/
structure Draft where
  context : QuoteContext
  outer : List QuoteContext := []
  parts : List Part := []
  /-- The open parts, each with the parts before it. -/
  enclosing : List (Opening × List Part) := []
  isQuoted : Bool := false

namespace Draft

/-- Adds a part. -/
def add (draft : Draft) (part : Part) : Draft :=
  { draft with parts := part :: draft.parts }

/-- Adds a character. -/
def put (draft : Draft) (c : Char) (isEscaped : Bool := false) : Draft :=
  draft.add (.letter c isEscaped)

/-- Changes the innermost context. -/
def adjust (draft : Draft) (f : QuoteContext → QuoteContext) : Draft :=
  { draft with context := f draft.context }

/-- Opens a context. -/
def enter (draft : Draft) (context : QuoteContext) : Draft :=
  { draft with context, outer := draft.context :: draft.outer }

/-- Closes the innermost context. -/
def leave (draft : Draft) : Draft :=
  match draft.outer with
  | [] => draft
  | context :: outer => { draft with context, outer }

/-- Opens a part. -/
def begin (draft : Draft) (opening : Opening) : Draft :=
  { draft with parts := [], enclosing := (opening, draft.parts) :: draft.enclosing }

/-- Closes the innermost open part. -/
def close (draft : Draft) : Draft :=
  match draft.enclosing with
  | [] => draft
  | (opening, before) :: rest =>
    let inside := draft.parts.reverse
    let part : Part := match opening with
      | .parameter name modifier => .parameter name modifier inside
      | .arithmetic => .arithmetic inside
    { draft with parts := part :: before, enclosing := rest }

/-- The word of a finished draft. -/
def word (draft : Draft) : Word :=
  draft.parts.reverse

end Draft

/-- Where a word is read: on a command line, or as the text of a here-document. -/
structure WordPlace where
  document : Option Announcement := none

/-- Whether characters between double quotes and those of patterns are told
apart when they stand between quotation marks. -/
def isGuarded (c : Char) : Bool :=
  c ∈ ['!', '*', '?', '[', '=', '~', ':', '/', '-', ']']

/-- The meaning of a character. -/
inductive CharClass where
  | plain | guarded | newline | backslash | singleQuote | doubleQuote | closingQuote | dollar
  | closingBrace | openParen | closeParen | backquote | separator
  deriving DecidableEq, Repr

/-- The meaning of a character in a style. -/
def QuoteStyle.classify (style : QuoteStyle) (c : Char) : CharClass :=
  if c = '\n' then .newline
  else match style with
    | .single =>
      if c = '\'' then .closingQuote
      else if isGuarded c || c = '\\' then .guarded
      else .plain
    | .none =>
      if c = '\\' then .backslash
      else if c = '\'' then .singleQuote
      else if c = '"' then .doubleQuote
      else if c = '`' then .backquote
      else if c = '$' then .dollar
      else if c = '\x7d' then .closingBrace
      else if c ∈ ['<', '>', '(', ')', ';', '&', '|', ' ', '\t'] then .separator
      else .plain
    | .double =>
      if c = '\\' then .backslash
      else if c = '"' then .closingQuote
      else if c = '`' then .backquote
      else if c = '$' then .dollar
      else if c = '\x7d' then .closingBrace
      else if isGuarded c then .guarded
      else .plain
    | .arithmetic =>
      if c = '\\' then .backslash
      else if c = '`' then .backquote
      else if c = '$' then .dollar
      else if c = '\x7d' then .closingBrace
      else if c = '(' then .openParen
      else if c = ')' then .closeParen
      else .plain

namespace Lexer

open Reader

/-- Reads the characters of a name, of which `c` is the next one. `done` holds
those before, in reverse. The result is the name and the character after it. -/
def nameFrom (fits : Char → Bool) (done : Text) (c : Option Char) :
    Nat → Parse (Text × Option Char)
  | 0 => fail .tooLong
  | steps + 1 =>
    match c with
    | some letter =>
      if fits letter then do nameFrom fits (letter :: done) (← nextJoined) steps
      else return (done.reverse, c)
    | none => return (done.reverse, c)

/-- Whether a character is the name of a special parameter. -/
def isSpecialName (c : Char) : Bool :=
  c.isDigit || c ∈ ['!', '#', '$', '*', '-', '?', '@']

/-- The modifier that a mark stands for. -/
def modifierOf (nullToo : Bool) (c : Option Char) : Modifier :=
  match c with
  | some '-' => .default nullToo
  | some '+' => .alternative nullToo
  | some '?' => .complain nullToo
  | some '=' => .assign nullToo
  | some '\x7d' => .plain
  | _ => .bad

/-- Reads what follows the name in a braced substitution, `c` being the next
character. The result is the modifier, and whether an operand follows. -/
def modifierFrom (c : Option Char) : Parse (Modifier × Bool) := do
  match c with
  | some ':' => return (modifierOf true (← nextJoined), true)
  | some '#' | some '%' =>
    let second ← nextJoined
    let longest := second = c
    if !longest then unread second
    return (.trim (c = some '%') longest, true)
  | _ => return (modifierOf false c, c ≠ some '\x7d')

/-- Reads the name and the modifier of a substitution in braces. The result says
too whether an operand follows. -/
def bracedFrom : Parse (Text × Modifier × Bool) := do
  let named (c : Option Char) (isLength : Bool) : Parse (Option (Text × Option Char)) := do
    match c with
    | some letter =>
      if isNameStart letter then return some (← nameFrom isNameChar [] c stepLimit)
      else if letter.isDigit then return some (← nameFrom Char.isDigit [] c stepLimit)
      else if letter = '\x7d' then return none
      else if isSpecialName letter && !isLength then return some ([letter], ← nextJoined)
      else return none
    | none => return none
  let whole (name : Text) (c : Option Char) : Parse (Text × Modifier × Bool) := do
    return (name, ← modifierFrom c)
  let bad (c : Option Char) : Parse (Text × Modifier × Bool) := do
    unread c
    return ([], .bad, true)
  let c ← nextJoined
  if c = some '#' then
    let second ← nextJoined
    if second.any fun letter => letter = '_' || letter.isAlphanum then
      match ← named second true with
      | some (name, after) =>
        unread after
        return (name, if after = some '\x7d' then .length else .bad, true)
      | none => bad second
    else
      let third ← nextJoined
      if second = some '\x7d' || third ≠ some '\x7d' then
        unread third
        whole ['#'] second
      else
        match second with
        | some letter =>
          unread third
          return if isSpecialName letter then ([letter], .length, true) else ([], .bad, true)
        | none => bad third
  else
    match ← named c false with
    | some (name, after) => whole name after
    | none =>
      if c.isNone || c = some '\x7d' then bad c
      else
        let after ← nextJoined
        bad after

/-- Opens the operand of a substitution. -/
def openOperand (draft : Draft) (name : Text) (modifier : Modifier) : Draft :=
  let style := match modifier, draft.context.style with
    | .trim .., _ => QuoteStyle.none
    | _, .arithmetic => .double
    | _, style => style
  let draft :=
    if style ≠ draft.context.style || draft.context.isInner then
      draft.enter { style, isPushed := true, isDouble := style ≠ .none }
    else draft
  let draft := draft.adjust fun context =>
    { context with
      braces := context.braces + 1
      quotedBraces := context.quotedBraces + (if context.isDouble then 1 else 0) }
  draft.begin (.parameter name modifier)

/-- Reads what follows a dollar sign. -/
def dollar (nested : Bool → Parse Command) (draft : Draft) : Parse Draft := do
  if (← get).readsDelimiter then return draft.put '$'
  match ← nextJoined with
  | some '(' =>
    match ← nextJoined with
    | some '(' =>
      return (draft.enter { style := .arithmetic, isDouble := true }).begin .arithmetic
    | c =>
      unread c
      return draft.add (.command (← nested true))
  | some '\x7b' =>
    let (name, modifier, hasOperand) ← bracedFrom
    if hasOperand then return openOperand draft name modifier
    return draft.add (.parameter name modifier [])
  | some c =>
    if isNameStart c then
      let (name, after) ← nameFrom isNameChar [] (some c) stepLimit
      unread after
      return draft.add (.parameter name .plain [])
    else if isSpecialName c then return draft.add (.parameter [c] .plain [])
    else
      unread (some c)
      return draft.put '$'
  | none => return draft.put '$'

/-- Reads the text up to the closing backquote. `done` holds the characters
before, in reverse; a backslash is dropped before those that it protects here. -/
def backquotedFrom (isDouble : Bool) (done : Text) : Nat → Parse Text
  | 0 => fail .tooLong
  | steps + 1 => do
    match ← nextJoined with
    | none => fail .unterminatedBackquote
    | some '`' => return done.reverse
    | some '\\' =>
      match ← next with
      | none => fail .unterminatedBackquote
      | some c =>
        if c = '\n' then endLine
        if c = '\\' || c = '`' || c = '$' || (isDouble && c = '"') then
          backquotedFrom isDouble (c :: done) steps
        else backquotedFrom isDouble (c :: '\\' :: done) steps
    | some c =>
      if c = '\n' then endLine
      backquotedFrom isDouble (c :: done) steps

/-- Reads the command between backquotes. What follows the command in the same
quotes is not read. -/
def backquoted (nested : Bool → Parse Command) (isDouble : Bool) : Parse Command := do
  let source ← backquotedFrom isDouble [] stepLimit
  let outside ← get
  set { outside with
    input := source, line := 1, active := [], isPushedBack := false, announced := [] }
  let body ← nested false
  modify fun inside =>
    { outside with documents := inside.documents, isPushedBack := false }
  return body

/-- At the start of a line of a here-document, of which `c` is the first
character: none when the document ends here, and the character otherwise. -/
def lineOf (place : WordPlace) (c : Option Char) : Parse (Option Char) := do
  match place.document with
  | none => return c
  | some announcement =>
    unread c
    let reader ← get
    let input :=
      if announcement.stripsTabs then reader.input.dropWhile (· = '\t') else reader.input
    match Text.afterOpening? announcement.delimiter input with
    | some [] =>
      set { reader with input := [] }
      return none
    | some ('\n' :: rest) =>
      set { reader with input := rest, line := reader.line + 1 }
      return none
    | _ =>
      set { reader with input }
      next

/-- What a step of reading a word leads to: the end of the word, another
character, or the start of a line. -/
inductive Progress where
  | over
  | more
  | line

/-- Reads what follows a backslash. -/
def backslash (place : WordPlace) (draft : Draft) : Parse Draft := do
  match ← next with
  | none => return draft.put '\\' true
  | some c =>
    let context := draft.context
    let isKept := context.isDouble && c ∉ ['\\', '`', '$']
      && (c ≠ '"' || (place.document.isSome && context.braces = 0))
      && (c ≠ '\x7d' || context.braces = 0)
    let draft := if isKept then draft.put '\\' true else draft
    return { draft.put c true with isQuoted := true }

/-- Adds a quotation mark. Here-documents have none. -/
def mark (place : WordPlace) (draft : Draft) : Draft :=
  if place.document.isSome then draft else draft.add .mark

/-- Notes a double quotation mark inside an operand. -/
def toggleInner (draft : Draft) : Draft :=
  draft.adjust fun context =>
    if context.braces = 0 then context else { context with isInner := !context.isInner }

/-- Reads one character of a word. -/
def step (nested : Bool → Parse Command) (place : WordPlace) (draft : Draft) (c : Char) :
    Parse (Draft × Progress) := do
  let context := draft.context
  match context.style.classify c with
  | .newline =>
    if context.style = .none && context.braces = 0 then return (draft, .over)
    endLine
    return (draft.put c, .line)
  | .plain => return (draft.put c, .more)
  | .guarded =>
    return (draft.put c (place.document.isNone || context.isDouble || context.braces ≠ 0), .more)
  | .backslash => return (← backslash place draft, .more)
  | .singleQuote =>
    return (mark place (draft.adjust fun context => { context with style := .single }), .more)
  | .doubleQuote =>
    let draft := draft.adjust fun context => { context with style := .double, isDouble := true }
    return (mark place (toggleInner draft), .more)
  | .closingQuote =>
    if place.document.isSome && context.braces = 0 then return (draft.put c, .more)
    let draft :=
      if context.quotedBraces = 0 then
        draft.adjust fun context => { context with style := .none, isDouble := false }
      else draft
    let draft := { draft with isQuoted := true }
    return (mark place (if c = '"' then toggleInner draft else draft), .more)
  | .dollar => return (← dollar nested draft, .more)
  | .closingBrace =>
    if context.isInner || context.braces = 0 then return (draft.put c, .more)
    let draft := draft.adjust fun context => { context with braces := context.braces - 1 }
    let draft :=
      if context.braces = 1 && context.isPushed then draft.leave
      else draft.adjust fun context => { context with quotedBraces := context.quotedBraces - 1 }
    return (draft.close, .more)
  | .openParen =>
    let draft := draft.adjust fun context => { context with parens := context.parens + 1 }
    return (draft.put c, .more)
  | .closeParen =>
    if context.parens ≠ 0 then
      let draft := draft.adjust fun context => { context with parens := context.parens - 1 }
      return (draft.put c, .more)
    match ← nextJoined with
    | some ')' => return (draft.leave.close, .more)
    | after =>
      unread after
      return (draft.put c, .more)
  | .backquote =>
    if (← get).readsDelimiter then return ({ draft.put c with isQuoted := true }, .more)
    return (draft.add (.command (← backquoted nested context.isDouble)), .more)
  | .separator =>
    if context.braces = 0 then return (draft, .over) else return (draft.put c, .more)

/-- Reads a word, of which `c` is the next character. The result is the word and
the character after it. -/
def wordFrom (nested : Bool → Parse Command) (place : WordPlace) (draft : Draft) (c : Option Char) :
    Nat → Parse (Draft × Option Char)
  | 0 => fail .tooLong
  | steps + 1 =>
    match c with
    | none => return (draft, none)
    | some letter => do
      let (draft, progress) ← step nested place draft letter
      match progress with
      | .over => return (draft, c)
      | .more =>
        let c ← if draft.context.style = .single then next else nextJoined
        wordFrom nested place draft c steps
      | .line =>
        let c ← lineOf place (← next)
        wordFrom nested place draft c steps

/-- Checks that a word is complete. -/
def checkEnd (place : WordPlace) (draft : Draft) : Parse Unit := do
  if draft.context.style = .arithmetic then fail .missingParens
  if draft.context.style ≠ .none && place.document.isNone then fail .unterminatedQuote
  if draft.context.braces ≠ 0 then fail .missingBrace

/-- Reads the text of a here-document, which starts on the line that comes next. -/
def documentBody (nested : Bool → Parse Command) (announcement : Announcement) : Parse Word := do
  let place : WordPlace := { document := some announcement }
  let context : QuoteContext :=
    if announcement.isLiteral then { style := .single } else { style := .double, isDouble := true }
  let first ← if announcement.isLiteral then next else nextJoined
  let c ← lineOf place first
  let (draft, _) ← wordFrom nested place { context } c stepLimit
  checkEnd place draft
  return draft.word

/-- Reads the texts of the here-documents that were announced. -/
def announcedBodies (nested : Bool → Parse Command) : Parse Unit := do
  let announced := (← get).announced
  modify fun reader => { reader with announced := [] }
  announced.forM fun announcement => do
    let body ← documentBody nested announcement
    modify fun reader =>
      { reader with documents := reader.documents.setIfInBounds announcement.number body }

/-- The kind of a redirection that starts with `c`. -/
def redirectionFrom (descriptor : Option Nat) (c : Char) : Parse Unit := do
  let second ← nextJoined
  let (kind, isWhole) : RedirectKind × Bool ←
    if c = '>' then
      match second with
      | some '>' => pure (.append, true)
      | some '|' => pure (.overwrite, true)
      | some '&' => pure (.duplicate, true)
      | _ => pure (.write, false)
    else
      match second with
      | some '<' =>
        let third ← nextJoined
        let stripsTabs := third = some '-'
        if !stripsTabs then unread third
        let reader ← get
        set { reader with stripsTabs, documents := reader.documents.push [] }
        pure (.document reader.documents.size, true)
      | some '&' => pure (.duplicate, true)
      | some '>' => pure (.readWrite, true)
      | _ => pure (.read, false)
  if !isWhole then unread second
  modify fun reader =>
    { reader with redirection := (descriptor.getD (if c = '>' then 1 else 0), kind) }

/-- Reads a word or a redirection that starts with `c`. -/
def wordToken (nested : Bool → Parse Command) (c : Char) : Parse Token := do
  let (draft, after) ← wordFrom nested {} { context := {} } (some c) stepLimit
  checkEnd {} draft
  let descriptor? : Option (Option Nat) := match draft.parts with
    | [] => some none
    | [.letter d _] => if d.isDigit then some (some (d.toNat - '0'.toNat)) else none
    | _ => none
  match after, descriptor?, draft.isQuoted with
  | some '>', some descriptor, false =>
    redirectionFrom descriptor '>'
    return .redirection
  | some '<', some descriptor, false =>
    redirectionFrom descriptor '<'
    return .redirection
  | _, _, _ =>
    unread after
    modify fun reader => { reader with word := draft.word, isQuoted := draft.isQuoted }
    return .word

/-- Reads up to the end of the line. -/
def skipComment : Parse Unit :=
  modify fun reader =>
    { reader with input := reader.input.dropWhile fun c => c ≠ '\n' && c ≠ aliasEnd }

/-- The token `double` when `c` comes next, and `single` otherwise. -/
def doubled (c : Char) (single double : Token) : Parse Token := do
  let second ← nextJoined
  if second = some c then return double
  unread second
  return single

/-- Reads the next token, whatever it stands for. -/
def rawToken (nested : Bool → Parse Command) : Nat → Parse Token
  | 0 => fail .tooLong
  | steps + 1 => do
    match ← nextJoined with
    | none => return .endOfFile
    | some ' ' | some '\t' => rawToken nested steps
    | some '#' =>
      skipComment
      rawToken nested steps
    | some '\n' =>
      endLine
      return .newline
    | some '&' => doubled '&' .ampersand .andAnd
    | some '|' => doubled '|' .bar .orOr
    | some ';' => doubled ';' .semicolon .doubleSemicolon
    | some '(' => return .openParen
    | some ')' => return .closeParen
    | some c => wordToken nested c

/-- The next token: the last one again when it was pushed back. -/
def freshToken (nested : Bool → Parse Command) : Parse Token := do
  if (← get).isPushedBack then
    modify fun reader => { reader with isPushedBack := false }
    return (← get).last
  let token ← rawToken nested stepLimit
  modify fun reader => { reader with last := token }
  return token

/-- The first token that is no newline. Documents that a line announced stand
behind its end. -/
def tokenOnLine (nested : Bool → Parse Command) : Nat → Parse Token
  | 0 => fail .tooLong
  | steps + 1 => do
    match ← freshToken nested with
    | .newline =>
      announcedBodies nested
      modify fun reader =>
        { reader with
          wantsReserved := false, wantsAliases := false, skipsNewlines := false
          readsDelimiter := false }
      tokenOnLine nested steps
    | token => return token

/-- The next token as the reader was told to expect it: reserved words are told
from other words, and aliases are replaced by their text. `reserved` and
`aliases` say what is looked up already. -/
def tokenFrom (nested : Bool → Parse Command) (reserved aliases newlines : Bool) :
    Nat → Parse Token
  | 0 => fail .tooLong
  | steps + 1 => do
    let token ← if newlines then tokenOnLine nested stepLimit else freshToken nested
    let reader ← get
    let reserved := reserved || reader.wantsReserved
    let aliases := aliases || reader.wantsAliases
    set { reader with
      wantsReserved := false, wantsAliases := false, skipsNewlines := false
      readsDelimiter := false }
    if token ≠ .word || reader.isQuoted then return token
    match Word.plain? reader.word with
    | none => return token
    | some text =>
      if reserved && Token.reservedWords.contains text then
        modify fun reader => { reader with last := .reserved text }
        return .reserved text
      match if aliases then reader.aliasText? text else none with
      | some value =>
        if !value.isEmpty then enterAlias text value
        tokenFrom nested reserved aliases newlines steps
      | none => return token

/-- The next token. -/
def token (nested : Bool → Parse Command) : Parse Token := do
  let reader ← get
  tokenFrom nested reader.wantsReserved reader.wantsAliases reader.skipsNewlines stepLimit

end Lexer

end QuineRelay.Shell
