import QuineRelay.Shell.Syntax

/-!
# Reading source text

The state of reading commands: the octets ahead, the line they are on, which
words are looked up as reserved words or aliases, and the here-documents that a
command line has announced and whose text is still to come.

A backslash before a newline joins two lines, and most of the language does not
notice it, so most characters are read with `nextJoined`.
-/

namespace QuineRelay.Shell

/-- A token. The characters of a word and the kind of a redirection stand in the
reader. -/
inductive Token where
  | endOfFile | newline | semicolon | ampersand | andAnd | orOr | bar | openParen | closeParen
  | doubleSemicolon | redirection | word
  | reserved (text : Text)
  deriving DecidableEq, Repr

namespace Token

/-- The words that have a meaning of their own where a command may start. -/
def reservedWords : List Text :=
  ["!", "case", "do", "done", "elif", "else", "esac", "fi", "for", "if", "in", "then", "until",
    "while", "\x7b", "\x7d"]

/-- The reserved words that end a list of commands. -/
def closingWords : List Text :=
  ["do", "done", "elif", "else", "esac", "fi", "then", "\x7d"]

/-- A token as error messages call it. -/
def name : Token → Text
  | .endOfFile => "end of file"
  | .newline => "newline"
  | .semicolon => "\";\""
  | .ampersand => "\"&\""
  | .andAnd => "\"&&\""
  | .orOr => "\"||\""
  | .bar => "\"|\""
  | .openParen => "\"(\""
  | .closeParen => "\")\""
  | .doubleSemicolon => "\";;\""
  | .redirection => "redirection"
  | .word => "word"
  | .reserved text => '"' :: text ++ "\""

/-- Whether a token ends a list of commands. -/
def endsList : Token → Bool
  | .endOfFile | .closeParen | .doubleSemicolon => true
  | .reserved text => closingWords.contains text
  | _ => false

/-- Whether a token is made of the characters of a word. -/
def isWord : Token → Bool
  | .word | .reserved _ => true
  | _ => false

end Token

/-- Why a text is not a command. -/
inductive SyntaxFault where
  | unexpected (token : Token) (expected : Option Token)
  | badLoopVariable
  | badFunctionName
  | unterminatedQuote
  | unterminatedBackquote
  | missingBrace
  | missingParens
  | tooLong
  deriving DecidableEq, Repr

/-- The wording of a fault. -/
def SyntaxFault.reason : SyntaxFault → Text
  | .unexpected token none => token.name ++ " unexpected"
  | .unexpected token (some expected) =>
    token.name ++ " unexpected (expecting " ++ expected.name ++ ")"
  | .badLoopVariable => "Bad for loop variable"
  | .badFunctionName => "Bad function name"
  | .unterminatedQuote => "Unterminated quoted string"
  | .unterminatedBackquote => "EOF in backquote substitution"
  | .missingBrace => "Missing '\x7d'"
  | .missingParens => "Missing '))'"
  | .tooLong => "Too long"

/-- A fault with the line on which it was noticed. -/
structure SyntaxError where
  fault : SyntaxFault
  line : Nat
  deriving DecidableEq, Repr

/-- The message of a syntax error. -/
def SyntaxError.message (e : SyntaxError) : Text :=
  "Syntax error: " ++ e.fault.reason

/-- A here-document that was announced: the line that ends it, and whether its
text is taken as it stands and loses leading tabs. -/
structure Announcement where
  number : Nat
  delimiter : Text
  isLiteral : Bool
  stripsTabs : Bool
  deriving DecidableEq, Repr

/-- The state of reading commands. -/
structure Reader where
  /-- The octets ahead. -/
  input : Text
  /-- The number of the line that is read. -/
  line : Nat := 1
  aliases : List (Text × Text) := []
  /-- The aliases whose text is being read, innermost first, each with whether the
  word after it is looked up too. -/
  active : List (Text × Bool) := []
  wantsReserved : Bool := false
  wantsAliases : Bool := false
  skipsNewlines : Bool := false
  /-- Whether the next word ends a here-document, where nothing is substituted. -/
  readsDelimiter : Bool := false
  /-- Whether the last token is to be read again. -/
  isPushedBack : Bool := false
  last : Token := .newline
  /-- The last word. -/
  word : Word := []
  /-- Whether some part of the last word was quoted. -/
  isQuoted : Bool := false
  /-- The descriptor and the kind of the last redirection. -/
  redirection : Nat × RedirectKind := (0, .read)
  announced : List Announcement := []
  /-- Whether the last redirection strips tabs from its document. -/
  stripsTabs : Bool := false
  /-- The documents that were read, by number. -/
  documents : Array Word := #[]

/-- Reading that may find a syntax error. -/
abbrev Parse := StateT Reader (Except SyntaxError)

namespace Reader

/-- The number of characters after which reading gives up. -/
def stepLimit : Nat := 1000000000

/-- The mark after the text of an alias. It is no octet. -/
def aliasEnd : Char := Char.ofNat 256

/-- Reports a fault on the line that is read. -/
def fail {α : Type} (fault : SyntaxFault) : Parse α := do
  throw { fault, line := (← get).line }

/-- The reader behind the ends of aliases that come next. -/
def leaveAliases (reader : Reader) : Reader :=
  let ends := reader.input.takeWhile (· = aliasEnd)
  if ends.isEmpty then reader
  else
    { reader with
      input := reader.input.drop ends.length
      active := reader.active.drop ends.length
      wantsAliases := reader.wantsAliases || (reader.active.take ends.length).any Prod.snd }

/-- The next character; none at the end of the text. -/
def next : Parse (Option Char) :=
  modifyGet fun reader =>
    let reader := reader.leaveAliases
    match reader.input with
    | [] => (none, reader)
    | c :: rest => (some c, { reader with input := rest })

/-- A text without the joined line ends at its front, and the number of the line
it is on. -/
def joinLines (line : Nat) : Text → Nat × Text
  | '\\' :: '\n' :: rest => joinLines (line + 1) rest
  | text => (line, text)

/-- The next character that is no joined line end. -/
def nextJoined : Parse (Option Char) := do
  modify fun reader =>
    let reader := reader.leaveAliases
    let (line, input) := joinLines reader.line reader.input
    { reader with line, input }
  next

/-- Gives a character back, so that it is read again. -/
def unread (c : Option Char) : Parse Unit :=
  match c with
  | none => return
  | some c => modify fun reader => { reader with input := c :: reader.input }

/-- Notes that a newline was read. -/
def endLine : Parse Unit :=
  modify fun reader => { reader with line := reader.line + 1 }

/-- Sets what the next token is looked up as. -/
def expecting (reserved aliases newlines : Bool) : Parse Unit :=
  modify fun reader =>
    { reader with
      wantsReserved := reserved, wantsAliases := aliases, skipsNewlines := newlines }

/-- Sets the next token up as the start of a command. -/
def expectCommand (newlines : Bool) : Parse Unit :=
  expecting true true newlines

/-- Makes the last token the next one. -/
def pushBack : Parse Unit :=
  modify fun reader => { reader with isPushedBack := true }

/-- The alias of a word, unless its text is being read. -/
def aliasText? (reader : Reader) (name : Text) : Option Text :=
  if reader.active.any (·.1 = name) then none else reader.aliases.lookup name

/-- Puts the text of an alias before the rest of the text. -/
def enterAlias (name value : Text) : Parse Unit :=
  modify fun reader =>
    let looksOn := value.getLast?.any fun c => c = ' ' || c = '\t'
    { reader with
      input := value ++ aliasEnd :: reader.input
      active := (name, looksOn) :: reader.active }

end Reader

end QuineRelay.Shell
