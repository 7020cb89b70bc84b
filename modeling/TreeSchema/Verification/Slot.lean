/-
This file holds slots. A slot is a place of the tree where a node is expected: the
link that leads there, the candidates for it, and the way to it from the header,
which is what the path of an entry shows.
-/
import TreeSchema.Definition
import TreeSchema.Document

namespace TreeSchema

/-- A place of the tree where a node is expected. `steps` are the bound nodes above it, the
nearest first, each with its index among its siblings. -/
structure Slot where
  link : Option Nat
  candidates : List Reference
  steps : List (String × Nat)
  index : Nat
  deriving DecidableEq, Repr, Inhabited

namespace Slot

/-- One bound node in a path. -/
def stepText (step : String × Nat) : String :=
  "/" ++ step.1 ++ "[" ++ toString step.2 ++ "]"

/-- The bound nodes above a slot, the outermost first. -/
def stepsText : List (String × Nat) → String
  | [] => ""
  | step :: above => stepsText above ++ stepText step

/-- The path of a slot. -/
def path (slot : Slot) : String :=
  stepsText slot.steps ++ "/#" ++ toString slot.index

/-- The slot of the first child of a node bound here. -/
def childSlot (slot : Slot) (definition : Definition) (node : Node) : Slot :=
  ⟨node.child, definition.children.references, (definition.name, slot.index) :: slot.steps, 0⟩

/-- The slot of the next sibling of a node bound here. -/
def nextSlot (slot : Slot) (definition : Definition) (node : Node) : Slot :=
  ⟨node.next, definition.nextSiblings.references, slot.steps, slot.index + 1⟩

end Slot

end TreeSchema
