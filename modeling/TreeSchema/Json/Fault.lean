/-
This file names what can be wrong with a JSON text and says where it is wrong: by
line, by column in the line, and by the number of characters before it.
-/

namespace TreeSchema.Json

/-- What a reader of JSON expected or refused. -/
inductive Cause where
  | noValue
  | noPropertyName
  | noColon
  | noComma
  | extraData
  | openText
  | controlCharacter
  | badEscape
  | badUnicodeEscape
  | byteOrderMark
  deriving DecidableEq, Repr, Inhabited

def Cause.message : Cause → String
  | noValue => "Expecting value"
  | noPropertyName => "Expecting property name enclosed in double quotes"
  | noColon => "Expecting ':' delimiter"
  | noComma => "Expecting ',' delimiter"
  | extraData => "Extra data"
  | openText => "Unterminated string starting at"
  | controlCharacter => "Invalid control character at"
  | badEscape => "Invalid \\escape"
  | badUnicodeEscape => "Invalid \\uXXXX escape"
  | byteOrderMark => "Unexpected UTF-8 BOM (decode using utf-8-sig)"

/-- Where reading stopped: the part of the text from the fault on. -/
structure Stop where
  cause : Cause
  rest : List Char
  deriving DecidableEq, Repr, Inhabited

/-- A fault and the part of the text before it. -/
structure Fault where
  cause : Cause
  before : List Char
  deriving DecidableEq, Repr, Inhabited

namespace Fault

/-- The fault of a text at which reading stopped. -/
def ofStop (text : List Char) (stop : Stop) : Fault :=
  ⟨stop.cause, text.take (text.length - stop.rest.length)⟩

/-- Lines count from one. -/
def line (fault : Fault) : Nat :=
  fault.before.count '\n' + 1

/-- Columns count from one in each line. -/
def column (fault : Fault) : Nat :=
  (fault.before.reverse.takeWhile (· != '\n')).length + 1

/-- Characters count from zero. -/
def position (fault : Fault) : Nat :=
  fault.before.length

def message (fault : Fault) : String :=
  s!"{fault.cause.message}: line {fault.line} column {fault.column} (char {fault.position})"

end Fault

end TreeSchema.Json
