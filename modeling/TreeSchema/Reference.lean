/-
This file holds the references by which a definition names its neighbours. Two of
them are reserved: the mark that no neighbour is needed, and the mark of the place
right after the file header. A declaration writes the first as null and the second
as a token; anything else is the name of a definition.
-/
import TreeSchema.Value.Display

namespace TreeSchema

/-- A neighbour that a definition allows. -/
inductive Reference where
  | absent
  | head
  | named (name : String)
  deriving DecidableEq, Repr, Inhabited

namespace Reference

/-- The declared form of the mark for the place after the header. -/
def headToken : String := "@head"

/-- The reference that a declared token stands for. -/
def ofToken : Value → Reference
  | .null => absent
  | token => if token.display = headToken then head else named token.display

/-- The declared form of a reference. -/
def token : Reference → Value
  | absent => .null
  | head => .text headToken
  | named name => .text name

/-- A reference in a message: reserved ones stand in angle brackets. -/
def label : Reference → String
  | absent => "<absent>"
  | head => "<head>"
  | named name => name

/-- References in a message, in order. -/
def labels : List Reference → String
  | [] => "<none>"
  | references => ", ".intercalate (references.map label)

/-- The name, unless the reference is reserved. -/
def name? : Reference → Option String
  | named name => some name
  | _ => none

/-- The references that a declared relation lists: none for null, one for a text, and otherwise
one for each member. A value without members lists nothing and is refused. -/
def ofRelation? : Value → Option (List Reference)
  | .null => some []
  | .text name => some [ofToken (.text name)]
  | relation => relation.members?.map fun members => members.map ofToken

theorem ofToken_token_absent : ofToken (token absent) = absent := rfl

theorem ofToken_token_head : ofToken (token head) = head := rfl

theorem ofToken_token_named {name : String} (free : name ≠ headToken) :
    ofToken (token (named name)) = named name := by
  simp [ofToken, token, Value.display, free]

end Reference

/-- The four relations in which a definition names its neighbours. -/
inductive Relation where
  | parents
  | previousSiblings
  | nextSiblings
  | children
  deriving DecidableEq, Repr, Inhabited

namespace Relation

/-- All relations, in declaration order. -/
def all : List Relation :=
  [parents, previousSiblings, nextSiblings, children]

/-- The key of a relation in a declaration. -/
def key : Relation → String
  | parents => "parents"
  | previousSiblings => "prev_siblings"
  | nextSiblings => "next_siblings"
  | children => "children"

theorem mem_all (relation : Relation) : relation ∈ all := by
  cases relation <;> decide

end Relation

end TreeSchema
