/-
This file writes a value as JSON text: two spaces for each level, one item or
entry a line, and empty lists and records closed where they open. In quoted texts
only the quote, the backslash and the control characters are escaped.
-/
import TreeSchema.Json.Quoted
import TreeSchema.Number.Shortest
import TreeSchema.Text.Hexadecimal
import TreeSchema.Value

namespace TreeSchema.Json

/-- One character inside a quoted text. -/
def writeCharacter (character : Char) : List Char :=
  if character = quote ∨ character = escape then [escape, character]
  else if character = '\n' then [escape, 'n']
  else if character = '\r' then [escape, 'r']
  else if character = '\t' then [escape, 't']
  else if character = '\x0c' then [escape, 'f']
  else if character = '\x08' then [escape, 'b']
  else if character.toNat < 32 then escape :: 'u' :: Text.hexDigits 4 character.toNat
  else [character]

def writeText (text : String) : List Char :=
  quote :: (text.toList.flatMap writeCharacter ++ [quote])

def writeInteger (value : Int) : List Char :=
  (if value < 0 then ['-'] else []) ++ Nat.toDigits 10 value.natAbs

def writeReal : Double → List Char
  | .notNumber => "NaN".toList
  | .infinite false => "Infinity".toList
  | .infinite true => "-Infinity".toList
  | value => value.textList

/-- The start of a line at a depth. -/
def newLine (depth : Nat) : List Char :=
  '\n' :: List.replicate (2 * depth) ' '

mutual

/-- A value whose lines after the first stand at the depth given. -/
def writeValue (depth : Nat) : Value → List Char
  | .null => "null".toList
  | .bool true => "true".toList
  | .bool false => "false".toList
  | .integer value => writeInteger value
  | .real value => writeReal value
  | .text value => writeText value
  | .list [] => ['[', ']']
  | .list (item :: rest) =>
    '[' :: (newLine (depth + 1) ++ writeValue (depth + 1) item ++ writeItems (depth + 1) rest ++
      newLine depth ++ [']'])
  | .record [] => ['\x7b', '\x7d']
  | .record ((key, value) :: rest) =>
    '\x7b' :: (newLine (depth + 1) ++ writeText key ++ [':', ' '] ++ writeValue (depth + 1) value ++
      writeEntries (depth + 1) rest ++ newLine depth ++ ['\x7d'])

/-- The items after the first. -/
def writeItems (depth : Nat) : List Value → List Char
  | [] => []
  | item :: rest => ',' :: (newLine depth ++ writeValue depth item ++ writeItems depth rest)

/-- The entries after the first. -/
def writeEntries (depth : Nat) : List (String × Value) → List Char
  | [] => []
  | (key, value) :: rest =>
    ',' :: (newLine depth ++ writeText key ++ [':', ' '] ++ writeValue depth value ++
      writeEntries depth rest)

end

/-- The text of a value. -/
def write (value : Value) : String :=
  String.ofList (writeValue 0 value)

end TreeSchema.Json
