/-
This file writes a text between quotes, the way every message shows a text it
speaks about. The quote is the single one, or the double one for a text that
holds a single quote and no double quote. Printable characters stand as they
are; the quote in use and the backslash are escaped, and so is every character
that is not printable.
-/
import TreeSchema.Text.Hexadecimal
import TreeSchema.Text.Printable

namespace TreeSchema.Text

def singleQuote : Char := '\x27'

def doubleQuote : Char := '\x22'

/-- The quote that a text is written between. -/
def quoteFor (characters : List Char) : Char :=
  if singleQuote ∈ characters ∧ doubleQuote ∉ characters then doubleQuote else singleQuote

/-- A code point by number, in the shortest of the three forms that holds it. -/
def escapePoint (point : Nat) : List Char :=
  if point < 0x100 then '\\' :: 'x' :: hexDigits 2 point
  else if point < 0x10000 then '\\' :: 'u' :: hexDigits 4 point
  else '\\' :: 'U' :: hexDigits 8 point

/-- One character of a text written between the given quotes. -/
def escapeCharacter (quote character : Char) : List Char :=
  if character = quote ∨ character = '\\' then ['\\', character]
  else if character = '\n' then ['\\', 'n']
  else if character = '\r' then ['\\', 'r']
  else if character = '\t' then ['\\', 't']
  else if isPrintable character then [character]
  else escapePoint character.toNat

/-- The text between quotes. -/
def quotedList (characters : List Char) : List Char :=
  let quote := quoteFor characters
  quote :: characters.flatMap (escapeCharacter quote) ++ [quote]

/-- The text between quotes. -/
def quoted (text : String) : String :=
  String.ofList (quotedList text.toList)

end TreeSchema.Text
