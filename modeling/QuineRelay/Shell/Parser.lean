import QuineRelay.Shell.Lexer

/-!
# Commands

The grammar of the shell language. A text is read one complete command at a time,
because a command that runs may change how the text after it is read.

Each function of the grammar is handed the parsers for what is nested in its
construct, and `Grammar.ofDepth` ties them together, so the depth of nesting is
what the recursion descends on.
-/

namespace QuineRelay.Shell

/-- Where a list of commands stands. -/
inductive ListPlace where
  /-- Inside a construct that needs a command. -/
  | required
  /-- Inside a construct that may be empty. -/
  | optional
  /-- On a line of its own, which ends the list. -/
  | line
  deriving DecidableEq, Repr

/-- The parsers for nested constructs. -/
structure Grammar where
  list : ListPlace → Parse Command
  command : Parse Command

namespace Grammar

open Reader

variable (grammar : Grammar)

/-- Reads the command of a substitution. Here-documents that were announced around
it are read after it. -/
def substitution (isClosed : Bool) : Parse Command := do
  let outside := (← get).announced
  modify fun reader => { reader with announced := [] }
  let body ← grammar.list .optional
  if isClosed then
    let token ← Lexer.token fun _ => fail .tooLong
    if token ≠ .closeParen then fail (.unexpected token (some .closeParen))
  modify fun reader => { reader with announced := outside }
  return body

/-- The next token. -/
def token : Parse Token :=
  Lexer.token grammar.substitution

/-- Reads the texts of the here-documents that were announced. -/
def announcedBodies : Parse Unit :=
  Lexer.announcedBodies grammar.substitution

/-- Reports the last token as unexpected. -/
def unexpected {α : Type} (expected : Option Token) : Parse α := do
  fail (.unexpected (← get).last expected)

/-- Reads a token that has to come next. -/
def expect (expected : Token) : Parse Unit := do
  if (← grammar.token) ≠ expected then unexpected (some expected)

/-- The characters of a word that ends a here-document. -/
def delimiterText (word : Word) : Text :=
  (Word.literal? word).getD []

/-- Reads the target of the redirection that was read. -/
def redirectTarget : Parse Redirect := do
  let (descriptor, kind) := (← get).redirection
  match kind with
  | .document number =>
    let stripsTabs := (← get).stripsTabs
    modify fun reader => { reader with readsDelimiter := true }
    if (← grammar.token) ≠ .word then unexpected none
    modify fun reader =>
      let announcement : Announcement :=
        { number, delimiter := delimiterText reader.word, isLiteral := reader.isQuoted, stripsTabs }
      { reader with announced := reader.announced ++ [announcement] }
    let target : Word := if (← get).isQuoted then [.mark] else []
    return .mk descriptor kind target
  | _ =>
    if (← grammar.token) ≠ .word then unexpected none
    return .mk descriptor kind (← get).word

/-- Reads the redirections behind a construct. `done` holds those before, in
reverse. -/
def redirectsFrom (done : List Redirect) : Nat → Parse (List Redirect)
  | 0 => fail .tooLong
  | steps + 1 => do
    if (← grammar.token) = .redirection then
      redirectsFrom ((← grammar.redirectTarget) :: done) steps
    else
      pushBack
      return done.reverse

/-- Reads words up to another token. `done` holds those before, in reverse. -/
def wordsFrom (done : List Word) : Nat → Parse (List Word)
  | 0 => fail .tooLong
  | steps + 1 => do
    if (← grammar.token) = .word then wordsFrom ((← get).word :: done) steps
    else return done.reverse

/-- The names of the builtin commands that no function can have. -/
def specialNames : List Text :=
  [".", ":", "break", "continue", "eval", "exec", "exit", "export", "local", "readonly", "return",
    "set", "shift", "times", "trap", "unset"]

/-- A command line so far. Everything is in reverse. -/
structure Line where
  assignments : List Word := []
  words : List Word := []
  redirects : List Redirect := []

/-- Reads the rest of a command line that started on line `number`. A name and a
pair of parentheses start a function. -/
def lineFrom (number : Nat) (line : Line) : Nat → Parse Command
  | 0 => fail .tooLong
  | steps + 1 => do
    expecting false line.words.isEmpty false
    match ← grammar.token with
    | .word =>
      let word := (← get).word
      if line.words.isEmpty && (Word.assignment? word).isSome then
        lineFrom number { line with assignments := word :: line.assignments } steps
      else lineFrom number { line with words := word :: line.words } steps
    | .redirection =>
      let redirect ← grammar.redirectTarget
      lineFrom number { line with redirects := redirect :: line.redirects } steps
    | token =>
      match token, line with
      | .openParen, { assignments := [], words := [word], redirects := [] } =>
        grammar.expect .closeParen
        match Word.plain? word with
        | some name =>
          if !isName name || specialNames.contains name then fail .badFunctionName
          expectCommand true
          return .define name (← grammar.command)
        | none => fail .badFunctionName
      | _, _ =>
        pushBack
        return .simple number line.assignments.reverse line.words.reverse line.redirects.reverse

/-- Reads a condition, its body, and the other branches. -/
def branches : Nat → Parse Command
  | 0 => fail .tooLong
  | steps + 1 => do
    let condition ← grammar.list .required
    grammar.expect (.reserved "then")
    let success ← grammar.list .required
    let token ← grammar.token
    if token = .reserved "elif" then return .branch condition success (← branches steps)
    else if token = .reserved "else" then
      return .branch condition success (← grammar.list .required)
    else
      pushBack
      return .branch condition success .skip

/-- Reads a loop that repeats until its condition succeeds, or fails. -/
def repetition (untilDone : Bool) : Parse Command := do
  let condition ← grammar.list .required
  grammar.expect (.reserved "do")
  return .loop untilDone condition (← grammar.list .required)

/-- The word that stands for all arguments. -/
def allArguments : Word :=
  [.mark, .parameter ['@'] .plain [], .mark]

/-- Reads a loop over words. -/
def iteration (number : Nat) : Parse Command := do
  let isWord := (← grammar.token) = .word
  let reader ← get
  match Word.plain? reader.word with
  | some name =>
    if !isWord || reader.isQuoted || !isName name then fail .badLoopVariable
    expectCommand true
    let words ←
      if (← grammar.token) = .reserved "in" then
        let words ← grammar.wordsFrom [] stepLimit
        let last := (← get).last
        if last ≠ .newline && last ≠ .semicolon then unexpected none
        pure words
      else
        if (← get).last ≠ .semicolon then pushBack
        pure [allArguments]
    expectCommand true
    grammar.expect (.reserved "do")
    return .each number name words (← grammar.list .required)
  | none => fail .badLoopVariable

/-- Reads the patterns of a case, the first of which is the last token. -/
def patternsFrom (done : List Word) : Nat → Parse (List Word)
  | 0 => fail .tooLong
  | steps + 1 => do
    if !(← get).last.isWord then unexpected (some .word)
    let done := (← get).word :: done
    if (← grammar.token) = .bar then
      let _ ← grammar.token
      patternsFrom done steps
    else return done.reverse

/-- Reads the cases up to the end of a choice. `done` holds those before, in
reverse. -/
def casesFrom (done : List (List Word × Command)) : Nat → Parse (List (List Word × Command))
  | 0 => fail .tooLong
  | steps + 1 => do
    expecting true false true
    let token ← grammar.token
    if token = .reserved "esac" then return done.reverse
    if token = .openParen then
      let _ ← grammar.token
    let patterns ← grammar.patternsFrom [] stepLimit
    if (← get).last ≠ .closeParen then unexpected (some .closeParen)
    let body ← grammar.list .optional
    let done := (patterns, body) :: done
    expecting true false true
    let token ← grammar.token
    if token = .reserved "esac" then return done.reverse
    else if token = .doubleSemicolon then casesFrom done steps
    else unexpected (some .doubleSemicolon)

/-- Reads a choice. -/
def choice (number : Nat) : Parse Command := do
  if (← grammar.token) ≠ .word then unexpected (some .word)
  let subject := (← get).word
  expectCommand true
  grammar.expect (.reserved "in")
  return .choose number subject (← grammar.casesFrom [] stepLimit)

/-- Reads the redirections behind a construct and adds them to it. -/
def withRedirects (number : Nat) (body : Command) : Parse Command := do
  expectCommand false
  let redirects ← grammar.redirectsFrom [] stepLimit
  match body, redirects with
  | _, [] => return body
  | .subshell number inside _, _ => return .subshell number inside redirects
  | _, _ => return .redirected number body redirects

/-- Reads a command that is no pipeline. -/
def commandWith : Parse Command := do
  let number := (← get).line
  let closed (body : Command) (last : Token) : Parse Command := do
    grammar.expect last
    grammar.withRedirects number body
  match ← grammar.token with
  | .word | .redirection =>
    pushBack
    let number := (← get).line
    grammar.lineFrom number {} stepLimit
  | .openParen => closed (.subshell number (← grammar.list .required) []) .closeParen
  | .reserved word =>
    if word = "if" then closed (← grammar.branches stepLimit) (.reserved "fi")
    else if word = "while" then closed (← grammar.repetition false) (.reserved "done")
    else if word = "until" then closed (← grammar.repetition true) (.reserved "done")
    else if word = "for" then closed (← grammar.iteration number) (.reserved "done")
    else if word = "case" then grammar.withRedirects number (← grammar.choice number)
    else if word = "\x7b" then closed (← grammar.list .required) (.reserved "\x7d")
    else unexpected none
  | _ => unexpected none

/-- Reads the stages behind the first one of a pipeline. `done` holds those
before, in reverse. -/
def stagesFrom (done : List Command) : Nat → Parse Command
  | 0 => fail .tooLong
  | steps + 1 => do
    if (← grammar.token) = .bar then
      expectCommand true
      stagesFrom ((← grammar.commandWith) :: done) steps
    else
      pushBack
      match done with
      | [only] => return only
      | _ => return .pipe done.reverse

/-- Reads a pipeline. -/
def pipeline : Parse Command := do
  let isNegated := (← grammar.token) = .reserved "!"
  if isNegated then expectCommand false else pushBack
  let body ← grammar.stagesFrom [← grammar.commandWith] stepLimit
  return if isNegated then .negated body else body

/-- Reads the pipelines that are tied to `first`. -/
def chainFrom (first : Command) : Nat → Parse Command
  | 0 => fail .tooLong
  | steps + 1 => do
    match ← grammar.token with
    | .andAnd =>
      expectCommand true
      chainFrom (.both first (← grammar.pipeline)) steps
    | .orOr =>
      expectCommand true
      chainFrom (.either first (← grammar.pipeline)) steps
    | _ =>
      pushBack
      return first

/-- The command for the commands of a list, which are given in reverse. -/
def sequenced : List Command → Command
  | [] => .skip
  | [only] => only
  | reversed => .sequence reversed.reverse

/-- Reads a list of commands. `done` holds those before, in reverse. -/
def listFrom (place : ListPlace) (done : List Command) : Nat → Parse Command
  | 0 => fail .tooLong
  | steps + 1 => do
    let isLine := place = .line
    expectCommand !isLine
    let ended : Parse Command := do
      grammar.announcedBodies
      pushBack
      modify fun reader => { reader with last := .endOfFile }
      return sequenced done
    let token ← grammar.token
    if token = .newline then
      grammar.announcedBodies
      return sequenced done
    if token = .endOfFile then return ← ended
    pushBack
    if !isLine && (place = .optional || !done.isEmpty) && token.endsList then
      return sequenced done
    let body ← grammar.chainFrom (← grammar.pipeline) stepLimit
    let token ← grammar.token
    let done := (if token = .ampersand then Command.background body else body) :: done
    match token with
    | .endOfFile =>
      grammar.announcedBodies
      pushBack
      modify fun reader => { reader with last := .endOfFile }
      return sequenced done
    | .newline =>
      pushBack
      listFrom place done steps
    | .ampersand | .semicolon => listFrom place done steps
    | _ =>
      if isLine then unexpected none
      pushBack
      return sequenced done

/-- The grammar of what is nested at most `depth` deep. -/
def ofDepth : Nat → Grammar
  | 0 => { list := fun _ => fail .tooLong, command := fail .tooLong }
  | depth + 1 =>
    let deeper := ofDepth depth
    { list := fun place => deeper.listFrom place [] stepLimit
      command := deeper.commandWith }

/-- How deep constructs may be nested. -/
def depthLimit : Nat := 1000

end Grammar

/-- Reads the next complete command; none when there is no more. -/
def nextCommand? : Parse (Option Command) := do
  modify fun reader => { reader with isPushedBack := false, announced := [] }
  let command ← (Grammar.ofDepth Grammar.depthLimit).list .line
  let reader ← get
  match command with
  | .skip => return if reader.last = .endOfFile then none else some .skip
  | _ => return some command

/-- A text read as if it stood between quotation marks. No line of it ends it. -/
def quotedWord (text : Text) : Except SyntaxError Word :=
  let announcement : Announcement :=
    { number := 0, delimiter := "\n", isLiteral := false, stripsTabs := false }
  (Lexer.documentBody (Grammar.ofDepth Grammar.depthLimit).substitution announcement).run'
    { input := text }

end QuineRelay.Shell
