/-
This file builds definitions from parts that are given directly, not in a declaration. A
reference may be given as the mark itself or as a token, as a declaration would write it,
and a relation as one reference, as several, or not at all.
-/
import TreeSchema.Definition

namespace TreeSchema

/-- What is given for a reference. -/
inductive Reference.Given where
  | token (value : Value)
  | absent
  | head
  deriving Repr, Inhabited

/-- The reference that is meant. -/
def Reference.Given.meant : Reference.Given → Reference
  | token value => ofToken value
  | absent => .absent
  | head => .head

/-- What is given for a relation. -/
inductive Relation.Given where
  | nothing
  | single (reference : Reference.Given)
  | several (references : List Reference.Given)
  deriving Repr, Inhabited

/-- The neighbours that are meant. -/
def Relation.Given.meant : Relation.Given → Neighbours
  | nothing => Neighbours.ofList []
  | single reference => Neighbours.ofList [reference.meant]
  | several references => Neighbours.ofList (references.map Reference.Given.meant)

namespace Definition

/-- The definition with the parts given. -/
def build (name title data : String) (level : Int) (given : Relation → Relation.Given) :
    Definition where
  name := name
  title := title
  data := data
  level := level
  parents := (given .parents).meant
  previousSiblings := (given .previousSiblings).meant
  nextSiblings := (given .nextSiblings).meant
  children := (given .children).meant

theorem neighbours_build (name title data : String) (level : Int)
    (given : Relation → Relation.Given) (relation : Relation) :
    (build name title data level given).neighbours relation = (given relation).meant := by
  cases relation <;> rfl

end Definition

end TreeSchema
