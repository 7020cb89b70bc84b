/-
This file holds the templates that the title and the data of a node are compared
with. A template is a sequence of literals, free fields, integer fields and
bracketed groups; a group may be repeated, with commas between the repetitions.
Each constructor holds what follows it, so a template is one sequence and every
recursion on it is structural.
-/

namespace TreeSchema

/-- A sequence of template elements. -/
inductive Template where
  | done
  | literal (text : List Char) (rest : Template)
  | field (name : List Char) (rest : Template)
  | integer (rest : Template)
  | group (repeated : Bool) (body rest : Template)
  deriving DecidableEq, Repr, Inhabited

namespace Template

/-- A literal character before a template. It joins a literal that the template starts with. -/
def consCharacter (character : Char) : Template → Template
  | literal text rest => literal (character :: text) rest
  | template => literal [character] template

/-- The name under which an integer field is listed, and which no free field has. -/
def integerName : List Char := ['#']

/-- The names of the fields, groups included, in template order. -/
def fieldNames : Template → List (List Char)
  | done => []
  | literal _ rest => fieldNames rest
  | field name rest => name :: fieldNames rest
  | integer rest => integerName :: fieldNames rest
  | group _ body rest => fieldNames body ++ fieldNames rest

theorem consCharacter_ne_done (character : Char) (template : Template) :
    consCharacter character template ≠ done := by
  cases template <;> simp [consCharacter]

end Template

end TreeSchema
