import QuineRelay.Text.Numeral

/-!
# Why a source cannot be generated

Every cause stops the whole relay: a relay that is almost right is broken. A
cause names the language that failed and, where one byte is at fault, its offset
in the payload.
-/

namespace QuineRelay

/-- Why a text cannot stand between the parentheses of the origin's literal. -/
inductive EmbedFault where
  | backslash
  | unbalancedClosing
  | unclosedOpening
  | notText
  deriving DecidableEq, Repr

/-- The wording of an embedding fault. -/
def EmbedFault.message : EmbedFault → Text
  | .backslash => "backslash"
  | .unbalancedClosing => "unbalanced `)`"
  | .unclosedOpening => "unclosed `(`"
  | .notText => "invalid UTF-8"

/-- Why a language cannot hold a payload. -/
inductive GenerationError where
  /-- A byte has no spelling in the literals of the language. -/
  | unrepresentable (language : Text) (offset : Nat) (byte : UInt8)
  /-- A sequence would change how the language reads the source. -/
  | forbiddenSequence (language : Text) (offset : Nat) (sequence : Text)
  /-- Printing appends a newline that the payload does not end with. -/
  | missingTerminator (language : Text)
  /-- The source is longer than the limit. -/
  | tooLarge (language : Text) (size limit : Nat)
  /-- The origin's literal cannot hold the program text. -/
  | unembeddable (language : Text) (offset : Nat) (fault : EmbedFault)
  deriving DecidableEq, Repr

namespace GenerationError

/-- The language that failed. -/
def language : GenerationError → Text
  | .unrepresentable language _ _ => language
  | .forbiddenSequence language _ _ => language
  | .missingTerminator language => language
  | .tooLarge language _ _ => language
  | .unembeddable language _ _ => language

/-- Offset of the byte at fault, when there is one. -/
def offset? : GenerationError → Option Nat
  | .unrepresentable _ offset _ => some offset
  | .forbiddenSequence _ offset _ => some offset
  | .missingTerminator _ => none
  | .tooLarge _ _ _ => none
  | .unembeddable _ offset _ => some offset

/-- The wording of a cause. -/
def message : GenerationError → Text
  | .unrepresentable language offset byte =>
    language ++ " cannot represent byte 0x" ++ Text.hexByte byte ++ " at offset "
      ++ Text.decimal offset
  | .forbiddenSequence language offset sequence =>
    language ++ " cannot represent `" ++ sequence ++ "` at offset " ++ Text.decimal offset
  | .missingTerminator language =>
    language ++ " always ends its output with a newline, but the payload does not"
  | .tooLarge language size limit =>
    language ++ " source would be " ++ Text.decimal size ++ " bytes, over the limit of "
      ++ Text.decimal limit
  | .unembeddable language offset fault =>
    language ++ " origin cannot embed the kernel: " ++ fault.message ++ " at offset "
      ++ Text.decimal offset

end GenerationError

end QuineRelay
