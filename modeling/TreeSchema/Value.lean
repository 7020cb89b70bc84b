/-
This file holds the values that declarations are made of: the values of a JSON
text, with the entries of a record in the order in which they were written.
-/
import TreeSchema.Number.Double

namespace TreeSchema

/-- A declared value. -/
inductive Value where
  | null
  | bool (value : Bool)
  | integer (value : Int)
  | real (value : Double)
  | text (value : String)
  | list (items : List Value)
  | record (entries : List (String × Value))
  deriving Repr, Inhabited

namespace Value

/-- The name of the kind of a value, as messages give it. -/
def kind : Value → String
  | null => "NoneType"
  | bool _ => "bool"
  | integer _ => "int"
  | real _ => "float"
  | text _ => "str"
  | list _ => "list"
  | record _ => "dict"

/-- A value counts as given unless it is null, false, zero or empty. -/
def isGiven : Value → Bool
  | null => false
  | bool value => value
  | integer value => value != 0
  | real value => value.isNonzero
  | text value => value != ""
  | list items => !items.isEmpty
  | record entries => !entries.isEmpty

/-- The value of a key among entries. -/
def lookup? (key : String) (entries : List (String × Value)) : Option Value :=
  (entries.find? fun entry => entry.1 == key).map Prod.snd

/-- The entries with one of them set; a key keeps the place where it first stood. -/
def insert (key : String) (value : Value) : List (String × Value) → List (String × Value)
  | [] => [(key, value)]
  | entry :: rest => if entry.1 = key then (key, value) :: rest else entry :: insert key value rest

/-- The members of a value that has any: the items of a list, the characters of a text, the
keys of a record. -/
def members? : Value → Option (List Value)
  | list items => some items
  | text characters =>
    some (characters.toList.map fun character => text (String.singleton character))
  | record entries => some (entries.map fun entry => text entry.1)
  | _ => none

end Value

end TreeSchema
