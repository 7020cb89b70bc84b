/-
This file holds outlines, the nested records from which documents are built, and
lays an outline out as nodes: a node first, then the nodes below it, then its next
sibling. Every record becomes one node of its own.
-/
import TreeSchema.Document

namespace TreeSchema

/-- Records in order, each with the outline of its children. -/
inductive Outline where
  | done
  | entry (title data : String) (children rest : Outline)
  deriving DecidableEq, Repr, Inhabited

namespace Outline

/-- The number of records at all levels. -/
def size : Outline → Nat
  | done => 0
  | entry _ _ children rest => 1 + children.size + rest.size

/-- The place of the first record, where the nodes are laid out from `start` on. -/
def first? (start : Nat) : Outline → Option Nat
  | done => none
  | entry _ _ _ _ => some start

/-- The nodes of an outline, laid out from `start` on. -/
def layOut (start : Nat) (level : Int) (parent previous : Option Nat) : Outline → List Node
  | done => []
  | entry title data children rest =>
    let next := start + 1 + children.size
    { title, data, level, parent, previous
      next := rest.first? next
      child := children.first? (start + 1) } ::
      (layOut (start + 1) (level + 1) (some start) none children ++
        layOut next level parent (some start) rest)

theorem length_layOut (start : Nat) (level : Int) (parent previous : Option Nat)
    (outline : Outline) : (layOut start level parent previous outline).length = outline.size := by
  induction outline generalizing start level parent previous with
  | done => rfl
  | entry title data children rest childrenHypothesis restHypothesis =>
    simp only [layOut, size, List.length_cons, List.length_append, childrenHypothesis,
      restHypothesis]
    omega

end Outline

namespace Document

/-- The document of an outline whose first records have the level given. -/
def ofOutline (outline : Outline) (level : Int) : Document :=
  ⟨(outline.layOut 0 level none none).toArray⟩

/-- The document with an outline laid out after its nodes, below a parent if one is given. -/
def addOutline (document : Document) (outline : Outline) (level : Int) (parent : Option Nat) :
    Document :=
  let first := outline.first? document.size
  let added := outline.layOut document.size level parent none
  let extended : Document := ⟨document.nodes ++ added.toArray⟩
  match parent with
  | some place => extended.modify place fun node => { node with child := first }
  | none => extended

theorem size_ofOutline (outline : Outline) (level : Int) :
    (ofOutline outline level).size = outline.size := by
  simp [ofOutline, size, Outline.length_layOut]

end Document

end TreeSchema
