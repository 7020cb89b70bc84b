/-
This file maps texts to lower and to upper case by the full Unicode rules: one
letter may become several, and a capital sigma becomes a final sigma where it
ends a word, that is, where a letter with case stands before it and none after
it, characters without weight aside.
-/
import TreeSchema.Text.Case.Table

namespace TreeSchema.Text

/-- The letter of the other case that a table of runs gives. -/
def shiftCase (runs : List CaseRun) (character : Char) : Char :=
  match runs.find? fun run => run.covers character.toNat with
  | some run => Char.ofNat (character.toNat + run.distance).toNat
  | none => character

/-- The characters that replace one character, several where the expansions say so. -/
def mapCase (runs : List CaseRun) (expansions : List (Nat × List Nat)) (character : Char) :
    List Char :=
  match expansions.find? fun entry => entry.1 == character.toNat with
  | some entry => entry.2.map Char.ofNat
  | none => [shiftCase runs character]

/-- The first character that counts, on the way given, has case. -/
def meetsCased (characters : List Char) : Bool :=
  match characters.dropWhile fun character => ignorableRanges.covers character with
  | [] => false
  | character :: _ => casedRanges.covers character

/-- Lower case, given the characters already passed, the nearest first. -/
def lowerFrom (passed : List Char) : List Char → List Char
  | [] => []
  | character :: rest =>
    let lowered :=
      if character = 'Σ' then
        if meetsCased passed && !meetsCased rest then ['ς'] else ['σ']
      else mapCase lowerRuns lowerExpansions character
    lowered ++ lowerFrom (character :: passed) rest

/-- The text in lower case. -/
def lower (text : String) : String :=
  String.ofList (lowerFrom [] text.toList)

/-- The text in upper case. -/
def upper (text : String) : String :=
  String.ofList (text.toList.flatMap (mapCase upperRuns upperExpansions))

end TreeSchema.Text
