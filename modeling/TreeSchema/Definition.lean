/-
This file holds the definition of one type of node: the templates that its title
and data must match, and the references to the types that may stand around it, in
the order in which they are tried. A relation that names nothing allows only the
absence of the neighbour.
-/
import TreeSchema.Reference

namespace TreeSchema

/-- The references of one relation, at least one. -/
structure Neighbours where
  references : List Reference
  nonempty : references ≠ []
  deriving DecidableEq

namespace Neighbours

/-- The given references, or the mark of absence where there are none. -/
def ofList : List Reference → Neighbours
  | [] => ⟨[.absent], List.cons_ne_nil _ _⟩
  | reference :: rest => ⟨reference :: rest, List.cons_ne_nil _ _⟩

theorem ofList_references (neighbours : Neighbours) :
    ofList neighbours.references = neighbours := by
  obtain ⟨references, nonempty⟩ := neighbours
  cases references with
  | nil => exact absurd rfl nonempty
  | cons reference rest => rfl

end Neighbours

/-- One type of node. -/
structure Definition where
  name : String
  title : String
  data : String
  level : Int
  parents : Neighbours
  previousSiblings : Neighbours
  nextSiblings : Neighbours
  children : Neighbours
  deriving DecidableEq

namespace Definition

/-- The neighbours in one relation. -/
def neighbours (definition : Definition) : Relation → Neighbours
  | .parents => definition.parents
  | .previousSiblings => definition.previousSiblings
  | .nextSiblings => definition.nextSiblings
  | .children => definition.children

/-- Every reference, with the relation in which it stands. -/
def references (definition : Definition) : List (Relation × Reference) :=
  Relation.all.flatMap fun relation =>
    (definition.neighbours relation).references.map fun reference => (relation, reference)

/-- A node of this type may stand right after the header. -/
def followsHeader (definition : Definition) : Bool :=
  definition.previousSiblings.references.contains .head

/-- A node of this type may be without children. -/
def allowsAbsentChild (definition : Definition) : Bool :=
  definition.children.references.contains .absent

/-- A node of this type may be the last of its siblings. -/
def allowsAbsentNext (definition : Definition) : Bool :=
  definition.nextSiblings.references.contains .absent

/-- The definition in a message. -/
def describe (definition : Definition) : String :=
  definition.name ++ ": title=" ++ Text.quoted definition.title ++ " data=" ++
    Text.quoted definition.data

theorem mem_references {definition : Definition} {relation : Relation} {reference : Reference} :
    (relation, reference) ∈ definition.references ↔
      reference ∈ (definition.neighbours relation).references := by
  simp [references, Relation.mem_all]

end Definition

end TreeSchema
