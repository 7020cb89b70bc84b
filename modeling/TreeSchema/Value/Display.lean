/-
This file writes values the way messages show them: texts between quotes, items
and entries separated by a comma and a space. A text that is shown on its own,
not inside a list or a record, stands without quotes.
-/
import TreeSchema.Value
import TreeSchema.Number.Shortest
import TreeSchema.Text.Quoted

namespace TreeSchema.Value

mutual

/-- The value as it stands inside a list or a record. -/
def shown : Value → String
  | null => "None"
  | bool true => "True"
  | bool false => "False"
  | integer value => toString value
  | real value => value.text
  | text value => Text.quoted value
  | list items => "[" ++ ", ".intercalate (shownItems items) ++ "]"
  | record entries => "\x7b" ++ ", ".intercalate (shownEntries entries) ++ "\x7d"

def shownItems : List Value → List String
  | [] => []
  | item :: rest => shown item :: shownItems rest

def shownEntries : List (String × Value) → List String
  | [] => []
  | (key, value) :: rest => (Text.quoted key ++ ": " ++ shown value) :: shownEntries rest

end

/-- The value on its own: a text stands as it is. -/
def display : Value → String
  | text value => value
  | value => value.shown

end TreeSchema.Value
