import QuineRelay.Text.Basic

/-!
# Cutting text into lines and chunks

Three cuts that lose nothing or only line breaks: `keptLines` cuts after every
newline and keeps it, `lines` drops the breaks, and `chunks` cuts into pieces of
a fixed number of characters. A text that ends with a newline has no empty last
line, and no cut yields an empty kept line or chunk.
-/

namespace QuineRelay.Text

/-- Lines with their newlines; `line` is the one being read and `done` holds the
finished ones, both in reverse. -/
def keptLinesFrom (line : Text) (done : List Text) : Text → List Text
  | [] => if line.isEmpty then done.reverse else (line.reverse :: done).reverse
  | c :: rest =>
    if c = '\n' then keptLinesFrom [] ((c :: line).reverse :: done) rest
    else keptLinesFrom (c :: line) done rest

/-- The lines of `text`, each with the newline that ends it. -/
def keptLines (text : Text) : List Text :=
  keptLinesFrom [] [] text

/-- A line without the newline that ends it, nor the carriage return before that
newline. A carriage return that no newline follows stays. -/
def withoutBreak (line : Text) : Text :=
  match line.reverse with
  | '\n' :: '\r' :: rest => rest.reverse
  | '\n' :: rest => rest.reverse
  | _ => line

/-- The lines of `text` without their breaks. -/
def lines (text : Text) : List Text :=
  (keptLines text).map withoutBreak

/-- Chunks of `width` characters; `done` holds the finished ones in reverse. -/
def chunksFrom (width : Nat) (done : List Text) (text : Text) : List Text :=
  match text with
  | [] => done.reverse
  | c :: rest => chunksFrom width ((c :: rest.take (width - 1)) :: done) (rest.drop (width - 1))
termination_by text.length
decreasing_by simp only [List.length_drop, List.length_cons]; omega

/-- `text` cut after every `width` characters. A width of zero counts as one. -/
def chunks (width : Nat) (text : Text) : List Text :=
  chunksFrom width [] text

end QuineRelay.Text
