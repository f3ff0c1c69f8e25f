import QuineRelay.Shell.Octets

/-!
# Shell commands

The language that toolchain steps are written in, as a tree: words with the
substitutions inside them, simple commands with assignments and redirections,
pipelines, lists, functions and the compound commands.

Quotation marks stay in a word. They decide at run time what is split, what is
matched literally, and whether an empty word counts.

The text of a here-document follows the command that refers to it, so a
redirection carries the number of its document, and the documents are kept beside
the commands.
-/

namespace QuineRelay.Shell

/-- What a substitution does with the value of its parameter. Where there is a
choice, `nullToo` says that a parameter with an empty value counts as unset. -/
inductive Modifier where
  | plain
  | length
  | default (nullToo : Bool)
  | assign (nullToo : Bool)
  | complain (nullToo : Bool)
  | alternative (nullToo : Bool)
  /-- Takes off what a pattern matches at the start or at the end. -/
  | trim (atEnd longest : Bool)
  /-- No substitution at all: an error when it is reached. -/
  | bad
  deriving DecidableEq, Repr

/-- What a redirection does to its descriptor. -/
inductive RedirectKind where
  | read
  | readWrite
  | write
  /-- Writes even where existing files are protected. -/
  | overwrite
  | append
  /-- Makes the descriptor lead where another one leads. -/
  | duplicate
  /-- Reads the document of this number. -/
  | document (number : Nat)
  deriving DecidableEq, Repr

mutual

/-- A part of a word. -/
inductive Part where
  /-- A quotation mark. -/
  | mark
  /-- A character; one that is escaped stands only for itself. -/
  | letter (c : Char) (isEscaped : Bool)
  | parameter (name : Text) (modifier : Modifier) (operand : List Part)
  | command (body : Command)
  | arithmetic (expression : List Part)

/-- Where a descriptor is led. -/
inductive Redirect where
  | mk (descriptor : Nat) (kind : RedirectKind) (target : List Part)

/-- A command. -/
inductive Command where
  /-- No command. -/
  | skip
  /-- A command line, with the number of the line it starts on. -/
  | simple (line : Nat) (assignments words : List (List Part)) (redirects : List Redirect)
  | pipe (stages : List Command)
  | negated (body : Command)
  | sequence (commands : List Command)
  | both (first second : Command)
  | either (first second : Command)
  | subshell (line : Nat) (body : Command) (redirects : List Redirect)
  | background (body : Command)
  | redirected (line : Nat) (body : Command) (redirects : List Redirect)
  | branch (condition success failure : Command)
  /-- Repeats a body while a condition succeeds, or until it does. -/
  | loop (untilDone : Bool) (condition body : Command)
  | each (line : Nat) (variableName : Text) (words : List (List Part)) (body : Command)
  | choose (line : Nat) (subject : List Part) (cases : List (List (List Part) × Command))
  | define (name : Text) (body : Command)

end

/-- A word before expansion. -/
abbrev Word := List Part

/-- A word of unquoted characters. -/
def Word.ofText (text : Text) : Word :=
  text.map fun c => .letter c false

/-- The characters of a word without its quotation marks, when it holds no
substitutions. -/
def Word.literal? : Word → Option Text
  | [] => some []
  | .mark :: rest => literal? rest
  | .letter c _ :: rest => (literal? rest).map (c :: ·)
  | _ :: _ => none

/-- The text of a word that is made of unquoted characters only. -/
def Word.plain? : Word → Option Text
  | [] => some []
  | .letter c _ :: rest => (plain? rest).map (c :: ·)
  | _ :: _ => none

/-- The name before an assignment sign at the front of a word, and the word after
the sign. `name` holds the characters before, in reverse. -/
def Word.assignmentFrom? (name : Text) : Word → Option (Text × Word)
  | .letter c false :: rest =>
    if c = '=' then if name.isEmpty then none else some (name.reverse, rest)
    else if isNameChar c && !(name.isEmpty && c.isDigit) then assignmentFrom? (c :: name) rest
    else none
  | _ => none

/-- The name and the value of a word that is an assignment. -/
def Word.assignment? (word : Word) : Option (Text × Word) :=
  Word.assignmentFrom? [] word

end QuineRelay.Shell
