import QuineRelay.Language
import QuineRelay.Text.Blank
import QuineRelay.Text.Letters

/-!
# The standard languages

The origin and the languages of the standard relay. Their order matters: each
source is printed by the language before, so every literal wraps all the ones
after it. Most languages spell a backslash by its number, so that nested escapes
grow by a constant number of characters, and the tape program, which is long for
any text, comes last.
-/

namespace QuineRelay.Language

/-- The language a relay starts and ends in. It quotes nothing: its program
reproduces itself. -/
def origin : Toolchain :=
  { name := "Ruby"
    file := "QR.rb"
    steps := [⟨.run, "ruby \x7bsrc\x7d", some "ruby"⟩] }

/-- Octal escapes of the C family; a question mark could start a trigraph. -/
def octalEscapes : EscapeTable :=
  [('"', "\\042"), ('?', "\\077"), ('\\', "\\134"), ('\n', "\\n")]

/-- Two-digit hexadecimal escapes. -/
def hexEscapes : EscapeTable :=
  [('"', "\\x22"), ('\\', "\\x5c"), ('\n', "\\n")]

/-- Quotes and backslashes behind a backslash. -/
def lispEscapes : EscapeTable :=
  [('"', "\\\""), ('\\', "\\\\")]

/-- Three-digit decimal escapes. -/
def decimalEscapes : EscapeTable :=
  [('"', "\\034"), ('\\', "\\092"), ('\n', "\\n")]

/-- A language that prints one literal exactly. -/
def ofLiteral (toolchain : Toolchain) (opening closing : Text) (escapes : EscapeTable) :
    Language :=
  { toolchain, quoting := .literal { opening, closing, escapes, ending := .exact } }

/-- Steps of a language whose programs run as they are. -/
def interpreted (command package : Text) : List Step :=
  [⟨.run, command, some package⟩]

/-- Steps of a language whose programs are compiled first. -/
def compiled (command package run : Text) : List Step :=
  [⟨.compile, command, some package⟩, ⟨.run, run, none⟩]

def rust : Language :=
  ofLiteral ⟨"Rust", "QR.rs", compiled "rustc \x7bsrc\x7d" "rustc" "./QR"⟩
    "fn main()\x7bprint!(\"\x7b\x7d\",\"" "\");\x7d\n" [('"', "\\x22"), ('\\', "\\x5c")]

def scheme : Language :=
  ofLiteral ⟨"Scheme", "QR.scm", interpreted "guile \x7bsrc\x7d" "guile-3.0"⟩
    "(display \"" "\")\n" lispEscapes

def tcl : Language :=
  ofLiteral ⟨"Tcl", "QR.tcl", interpreted "tclsh \x7bsrc\x7d" "tcl"⟩
    "puts -nonewline \"" "\"\n"
    [('"', "\\042"), ('$', "\\044"), ('[', "\\133"), ('\\', "\\134")]

def awk : Language :=
  ofLiteral ⟨"Awk", "QR.awk", interpreted "gawk -f \x7bsrc\x7d" "gawk"⟩
    "BEGIN\x7bprintf \"%s\",\"" "\"\x7d\n" [('"', "\\042"), ('\\', "\\134"), ('\n', "\\n")]

def bash : Language where
  toolchain := ⟨"Bash", "QR.bash", interpreted "bash \x7bsrc\x7d" "bash"⟩
  quoting := .pieces
    { opening := []
      closing := []
      itemOpening := "printf %s $'"
      itemClosing := "'\n"
      separator := []
      escapes := [('\x27', "\\x27"), ('\\', "\\x5c"), ('\n', "\\n")]
      cut := .lines }

def c : Language :=
  ofLiteral ⟨"C", "QR.c", compiled "gcc -o QR \x7bsrc\x7d" "gcc" "./QR"⟩
    "#include<stdio.h>\nint main(void)\x7bfputs(\"" "\",stdout);return 0;\x7d\n" octalEscapes

def cpp : Language :=
  ofLiteral ⟨"C++", "QR.cpp", compiled "g++ -o QR \x7bsrc\x7d" "g++" "./QR"⟩
    "#include<cstdio>\nint main()\x7bstd::fputs(\"" "\",stdout);\x7d\n" octalEscapes

def csharp : Language :=
  ofLiteral ⟨"C#", "QR.cs", compiled "mcs \x7bsrc\x7d" "mono-mcs" "mono QR.exe"⟩
    "class QR\x7bstatic void Main()\x7bSystem.Console.Write(\"" "\");\x7d\x7d\n"
    [('"', "\\u0022"), ('\\', "\\u005c"), ('\n', "\\n")]

def commonLisp : Language :=
  ofLiteral ⟨"Common Lisp", "QR.lisp", interpreted "sbcl --script \x7bsrc\x7d" "sbcl"⟩
    "(write-string \"" "\")\n" lispEscapes

def d : Language :=
  ofLiteral ⟨"D", "QR.d", compiled "gdc -o QR \x7bsrc\x7d" "gdc" "./QR"⟩
    "import std.stdio;void main()\x7bwrite(\"" "\");\x7d\n" [('"', "\\x22"), ('\\', "\\x5c")]

def go : Language :=
  ofLiteral ⟨"Go", "QR.go", interpreted "go run \x7bsrc\x7d" "golang-go"⟩
    "package main\nimport\"fmt\"\nfunc main()\x7bfmt.Print(\"" "\")\x7d\n" hexEscapes

def haskell : Language :=
  ofLiteral ⟨"Haskell", "QR.hs", interpreted "runghc \x7bsrc\x7d" "ghc"⟩
    "main=putStr\"" "\"\n" [('"', "\\\""), ('\\', "\\\\"), ('\n', "\\n")]

def java : Language where
  toolchain := ⟨"Java", "QR.java", compiled "javac \x7bsrc\x7d" "default-jdk" "java QR"⟩
  quoting := .pieces
    { opening := "class QR\x7bpublic static void main(String[]a)\x7b\n"
      closing := "\x7d\x7d\n"
      itemOpening := "System.out.print(\""
      itemClosing := "\");\n"
      separator := []
      escapes := [('"', "\\042"), ('\\', "\\134"), ('\n', "\\n")]
      cut := .width 4096 }

def javaScript : Language :=
  ofLiteral ⟨"JavaScript", "QR.js", interpreted "node \x7bsrc\x7d" "nodejs"⟩
    "process.stdout.write(\"" "\")\n" hexEscapes

def lua : Language :=
  ofLiteral ⟨"Lua", "QR.lua", interpreted "lua5.3 \x7bsrc\x7d" "lua5.3"⟩
    "io.write(\"" "\")\n" decimalEscapes

def ocaml : Language :=
  ofLiteral ⟨"OCaml", "QR.ml", interpreted "ocaml \x7bsrc\x7d" "ocaml"⟩
    "let()=print_string\"" "\"\n" decimalEscapes

def pascal : Language where
  toolchain := ⟨"Pascal", "QR.pas", compiled "fpc \x7bsrc\x7d" "fpc" "./QR"⟩
  quoting := .pieces
    { opening := "program QR;begin\n"
      closing := "end.\n"
      itemOpening := "write('"
      itemClosing := "');\n"
      separator := []
      escapes := [('\x27', "'#39'"), ('\n', "'#10'")]
      cut := .width 200 }

def perl : Language :=
  ofLiteral ⟨"Perl", "QR.pl", interpreted "perl \x7bsrc\x7d" "perl"⟩
    "print\"" "\"\n" [('"', "\\x22"), ('$', "\\x24"), ('@', "\\x40"), ('\\', "\\x5c")]

def php : Language where
  toolchain := ⟨"PHP", "QR.php", interpreted "php \x7bsrc\x7d" "php-cli"⟩
  quoting := .verbatim { forbidden := ["<?"], forbiddenOpenings := ["#!"] }

def postScript : Language where
  toolchain := ⟨"PostScript", "QR.ps", interpreted "gs -dNODISPLAY -q \x7bsrc\x7d" "ghostscript"⟩
  quoting := .pieces
    { opening := []
      closing := "quit\n"
      itemOpening := "("
      itemClosing := ")print\n"
      separator := []
      escapes := [('(', "\\050"), (')', "\\051"), ('\\', "\\134"), ('\n', "\\n")]
      cut := .width 4096 }

def python : Language where
  toolchain := ⟨"Python", "QR.py", interpreted "python3 \x7bsrc\x7d" "python3"⟩
  quoting := .literal
    { opening := "print(\""
      closing := "\")\n"
      escapes := hexEscapes
      ending := .newline }

def r : Language where
  toolchain := ⟨"R", "QR.R", interpreted "Rscript \x7bsrc\x7d" "r-base"⟩
  quoting := .pieces
    { opening := []
      closing := []
      itemOpening := "cat(\""
      itemClosing := "\")\n"
      separator := []
      escapes := hexEscapes
      cut := .width 1000 }

def brainfuck : Language where
  toolchain := ⟨"Brainfuck", "QR.bf", interpreted "beef \x7bsrc\x7d" "beef"⟩
  quoting := .tape { opening := [], closing := "\n" }

/-- The languages of the standard relay after the origin, in relay order. -/
def standard : List Language :=
  [rust, scheme, tcl, awk, bash, c, cpp, csharp, commonLisp, d, go, haskell, java, javaScript,
    lua, ocaml, pascal, perl, php, postScript, python, r, brainfuck]

/-- What follows the last dot of a file name, if it has one. -/
def extension? (file : Text) : Option Text :=
  if file.contains '.' then some (file.reverse.takeWhile (· ≠ '.')).reverse else none

/-- Whether `name` is the display name or the file extension of a language, in
any case. -/
def answersTo (language : Language) (name : Text) : Bool :=
  Text.sameLetters language.name name
    || (extension? language.toolchain.file).any fun extension => Text.sameLetters extension name

/-- The first standard language that answers to `name`, read without the white
space around it. -/
def find? (name : Text) : Option Language :=
  standard.find? (·.answersTo (Text.trim name))

end QuineRelay.Language
