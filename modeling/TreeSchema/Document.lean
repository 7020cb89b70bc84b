/-
This file holds loaded documents. A document is a store of nodes; a link from one
node to another is the place of the other in the store. Links are data and may lie:
they may form cycles, join, or lead nowhere. A node has a first child and a next
sibling; its parent and its previous sibling are kept for the reader only.
-/

namespace TreeSchema

/-- One node of a document. -/
structure Node where
  title : String
  data : String
  level : Int
  parent : Option Nat
  previous : Option Nat
  next : Option Nat
  child : Option Nat
  deriving DecidableEq, Repr, Inhabited

namespace Node

/-- A node without links. -/
def alone (title data : String) (level : Int) : Node :=
  ⟨title, data, level, none, none, none, none⟩

/-- Why a node has no line: its level is beyond every count, or the line would be too wide. -/
inductive LineFault where
  | uncountable
  | tooWide
  deriving DecidableEq, Repr, Inhabited

/-- Half of the number of counts; they lie around zero. -/
def countBound : Int :=
  Int.pow 2 63

/-- The number of columns that no line has. -/
def widthBound : Int :=
  Int.pow 2 32

/-- A node in one line, indented by two columns for each level. A negative level indents nothing. -/
def line (node : Node) : Except LineFault String :=
  if node.level < -countBound ∨ countBound ≤ 2 * node.level then .error .uncountable
  else if widthBound ≤ 2 * node.level then .error .tooWide
  else
    .ok (String.ofList (List.replicate (2 * node.level.toNat) ' ') ++ node.title ++ ":" ++
      node.data)

end Node

/-- A store of nodes. -/
structure Document where
  nodes : Array Node
  deriving DecidableEq, Repr, Inhabited

namespace Document

/-- The document without nodes. -/
def empty : Document :=
  ⟨#[]⟩

def size (document : Document) : Nat :=
  document.nodes.size

/-- The node at a place. -/
def node? (document : Document) (place : Nat) : Option Node :=
  document.nodes[place]?

/-- The node that a link leads to, with its place. A link to no node leads nowhere. -/
def follow (document : Document) (link : Option Nat) : Option (Nat × Node) :=
  link.bind fun place => (document.node? place).map fun node => (place, node)

/-- The document with one more node, at the last place. -/
def push (document : Document) (node : Node) : Document :=
  ⟨document.nodes.push node⟩

/-- The document with the node at a place changed. -/
def modify (document : Document) (place : Nat) (change : Node → Node) : Document :=
  ⟨document.nodes.modify place change⟩

/-- The places along a chain of siblings, at most `limit` of them. -/
def chain (document : Document) : (limit : Nat) → (start : Option Nat) → List Nat
  | 0, _ => []
  | _ + 1, none => []
  | limit + 1, some place =>
    match document.node? place with
    | none => []
    | some node => place :: chain document limit node.next

/-- The places of the children of a node. -/
def children (document : Document) (place : Nat) : List Nat :=
  document.chain document.size ((document.node? place).bind Node.child)

/-- Nodes linked as siblings, one after the other, where `previous` is the one before them. -/
def linkAfter (parent : Option Nat) : (previous : Option Nat) → List Nat → Document → Document
  | _, [], document => document
  | previous, place :: rest, document =>
    let linked := document.modify place fun node => { node with parent, previous, next := none }
    let joined :=
      match previous with
      | some before => linked.modify before fun node => { node with next := some place }
      | none => linked
    linkAfter parent (some place) rest joined

/-- Nodes linked as the children of a parent, or as siblings without one. -/
def linkSiblings (document : Document) (places : List Nat) (parent : Option Nat) : Document :=
  let linked := linkAfter parent none places document
  match parent with
  | some place => linked.modify place fun node => { node with child := places.head? }
  | none => linked

theorem node?_modify_self (document : Document) (place : Nat) (change : Node → Node) :
    (document.modify place change).node? place = (document.node? place).map change := by
  simp [modify, node?, Array.getElem?_modify]

theorem node?_modify_other {document : Document} {place other : Nat} (change : Node → Node)
    (different : place ≠ other) :
    (document.modify place change).node? other = document.node? other := by
  simp [modify, node?, Array.getElem?_modify, different]

theorem node?_lt {document : Document} {place : Nat} {node : Node}
    (found : document.node? place = some node) : place < document.size := by
  obtain ⟨inside, _⟩ := Array.getElem?_eq_some_iff.mp found
  exact inside

theorem follow_eq_some_iff {document : Document} {link : Option Nat} {place : Nat} {node : Node} :
    document.follow link = some (place, node) ↔
      link = some place ∧ document.node? place = some node := by
  cases link with
  | none => simp [follow]
  | some other =>
    simp only [follow, Option.bind_some, Option.map_eq_some_iff, Prod.mk.injEq,
      Option.some.injEq]
    constructor
    · rintro ⟨_, found, rfl, rfl⟩
      exact ⟨rfl, found⟩
    · rintro ⟨rfl, found⟩
      exact ⟨node, found, rfl, rfl⟩

theorem follow_lt {document : Document} {link : Option Nat} {place : Nat} {node : Node}
    (found : document.follow link = some (place, node)) : place < document.size :=
  node?_lt (follow_eq_some_iff.mp found).2

end Document

end TreeSchema
