/-
This file says when the nodes of a document conform to a schema, and proves that the
walk decides it on every document, whatever its links. Nodes conform position by
position: the node in a position is bound to the first candidate that accepts it, its
first child conforms against the children of that definition and its next sibling
against its next siblings, and a position is empty only where absence is a candidate.
Besides, the nodes after the header must form a tree. A document with a cycle, with a
node that is linked twice or with a link back to the header is never accepted.
-/
import TreeSchema.Proofs.Binding
import TreeSchema.Proofs.TreeWalk
import TreeSchema.Verification

namespace TreeSchema

/-- What a link leads to conforms against the candidates. -/
inductive Schema.Conforms (schema : Schema) (document : Document) :
    Option Nat → List Reference → Prop where
  | absent {link : Option Nat} {candidates : List Reference}
      (nowhere : document.follow link = none) (allowed : .absent ∈ candidates) :
      Conforms schema document link candidates
  | node {link : Option Nat} {candidates : List Reference} {place : Nat} {node : Node}
      {definition : Definition} (found : document.follow link = some (place, node))
      (binds : schema.Binds candidates node definition)
      (child : Conforms schema document node.child definition.children.references)
      (next : Conforms schema document node.next definition.nextSiblings.references) :
      Conforms schema document link candidates

theorem Walk.emptyFinding_conforms_iff {slot : Slot} :
    (emptyFinding slot).conforms = true ↔ .absent ∈ slot.candidates := by
  unfold emptyFinding
  split
  next allowed => exact iff_of_true rfl allowed
  next forbidden => exact iff_of_false Bool.false_ne_true forbidden

namespace Schema

theorem boundRule_iff {schema : Schema} {document : Document} {limit : Option Limit} {slot : Slot}
    {node : Node} {definition : Definition} :
    (∃ rule, (schema.walk document limit).boundRule slot node = some rule ∧
      rule.definition = definition) ↔ schema.Binds slot.candidates node definition :=
  bind_tried_iff

/-- Over a tree, nothing is wrong in any visit exactly if the nodes conform. -/
theorem allConform_visitTree_iff {schema : Schema} {document : Document} {limit : Option Limit}
    {tree : NodeTree} (slot : Slot) (unfolds : document.Unfolds slot.link tree) :
    Visit.allConform ((schema.walk document limit).visitTree slot tree) = true ↔
      schema.Conforms document slot.link slot.candidates := by
  induction tree generalizing slot with
  | absent =>
    cases unfolds with
    | absent nowhere =>
      rw [Walk.visitTree, Visit.allConform, List.all_cons, List.all_nil, Bool.and_true,
        Walk.emptyFinding_conforms_iff]
      constructor
      · exact fun allowed => .absent nowhere allowed
      · intro conforms
        cases conforms with
        | absent _ allowed => exact allowed
        | node found =>
          rw [nowhere] at found
          cases found
  | node place node below after belowHypothesis afterHypothesis =>
    cases unfolds with
    | node found child next =>
      rw [Walk.visitTree, Visit.allConform, List.all_cons, Bool.and_eq_true]
      cases bound : (schema.walk document limit).boundRule slot node with
      | none =>
        rw [Walk.nodeFinding_of_none bound]
        refine iff_of_false (fun conform => Bool.false_ne_true conform.1) fun conforms => ?_
        cases conforms with
        | absent nowhere =>
          rw [nowhere] at found
          cases found
        | node other binds =>
          rw [found, Option.some.injEq, Prod.mk.injEq] at other
          rw [← other.2] at binds
          obtain ⟨rule, boundRule, _⟩ := boundRule_iff.mpr binds
          rw [bound] at boundRule
          cases boundRule
      | some rule =>
        have binds : schema.Binds slot.candidates node rule.definition :=
          boundRule_iff.mp ⟨rule, bound, rfl⟩
        have belowIff := belowHypothesis (slot.childSlot rule.definition node) child
        have afterIff := afterHypothesis (slot.nextSlot rule.definition node) next
        rw [Walk.nodeFinding_of_some bound]
        simp only [List.all_append, Bool.and_eq_true]
        rw [Visit.allConform] at belowIff afterIff
        rw [belowIff, afterIff]
        constructor
        · intro parts
          exact .node found binds parts.2.1 parts.2.2
        · intro conforms
          cases conforms with
          | absent nowhere =>
            rw [nowhere] at found
            cases found
          | node other otherBinds conformsBelow conformsAfter =>
            rw [found, Option.some.injEq, Prod.mk.injEq] at other
            obtain ⟨_, rfl⟩ := other
            obtain ⟨otherRule, otherBound, rfl⟩ := boundRule_iff.mpr otherBinds
            rw [bound, Option.some.injEq] at otherBound
            subst otherBound
            exact ⟨rfl, conformsBelow, conformsAfter⟩

/-- Nothing is wrong in any visit of a walk that starts with one slot exactly if its link unfolds to
a tree without repeated places, and the nodes conform. -/
theorem allConform_visits_iff {schema : Schema} {document : Document} {slot : Slot} :
    Visit.allConform ((schema.walk document none).visits [] [slot]) = true ↔
      ∃ tree, document.Unfolds slot.link tree ∧ tree.places.Nodup ∧
        schema.Conforms document slot.link slot.candidates := by
  constructor
  · intro conform
    obtain ⟨tree, unfolds, nodup⟩ := Walk.exists_tree_of_allConform conform
    rw [Walk.visits_eq_visitTree rfl unfolds nodup] at conform
    exact ⟨tree, unfolds, nodup, (allConform_visitTree_iff slot unfolds).mp conform⟩
  · rintro ⟨tree, unfolds, nodup, conforms⟩
    rw [Walk.visits_eq_visitTree rfl unfolds nodup]
    exact (allConform_visitTree_iff slot unfolds).mpr conforms

/-- What conforms is no node where absence is a candidate, or a node that is bound and whose first
child and next sibling conform. -/
theorem conforms_iff {schema : Schema} {document : Document} {link : Option Nat}
    {candidates : List Reference} :
    schema.Conforms document link candidates ↔
      (document.follow link = none ∧ .absent ∈ candidates) ∨
      ∃ place node definition, document.follow link = some (place, node) ∧
        schema.Binds candidates node definition ∧
        schema.Conforms document node.child definition.children.references ∧
        schema.Conforms document node.next definition.nextSiblings.references := by
  constructor
  · intro conforms
    cases conforms with
    | absent nowhere allowed => exact Or.inl ⟨nowhere, allowed⟩
    | node found binds child next => exact Or.inr ⟨_, _, _, found, binds, child, next⟩
  · rintro (⟨nowhere, allowed⟩ | ⟨_, _, _, found, binds, child, next⟩)
    · exact .absent nowhere allowed
    · exact .node found binds child next

end Schema

/-- The nodes of a document are found to conform exactly if the nodes after the header form a tree
that the header is not part of, and this tree conforms, its first node against the candidates that
follow the header. -/
theorem nodesOk_iff_conforms (trace : Bool) (catalog : Catalog) (schema : Schema)
    (document : Document) (root : Option Nat) (filePath : String) :
    (verify ⟨trace, none⟩ catalog schema document root filePath).nodesOk = true ↔
      (document.IsTree (document.afterHeader root) ∧
        ∀ place, root = some place →
          ∀ chain, document.reach (document.afterHeader root) chain ≠ some place) ∧
      schema.Conforms document (document.afterHeader root)
        (schema.headCandidates.map Reference.named) := by
  let walk := schema.walk document none
  let slot := Verification.firstSlot schema (document.afterHeader root)
  have nodesOk : (verify ⟨trace, none⟩ catalog schema document root filePath).nodesOk =
      Visit.allConform (walk.visits [] [slot]) := rfl
  rw [nodesOk]
  constructor
  · intro conform
    obtain ⟨tree, unfolds, nodup⟩ := Walk.exists_tree_of_allConform conform
    have isTree : document.IsTree (document.afterHeader root) :=
      Document.isTree_iff.mpr ⟨tree, unfolds, nodup⟩
    refine ⟨⟨isTree, fun place header chain => ?_⟩, ?_⟩
    · exact Document.not_reach_header isTree.2 chain header
    · rw [Walk.visits_eq_visitTree rfl unfolds nodup] at conform
      exact (Schema.allConform_visitTree_iff slot unfolds).mp conform
  · intro both
    obtain ⟨⟨isTree, _⟩, conforms⟩ := both
    obtain ⟨tree, unfolds, nodup⟩ := Document.isTree_iff.mp isTree
    rw [Walk.visits_eq_visitTree rfl unfolds nodup]
    exact (Schema.allConform_visitTree_iff slot unfolds).mpr conforms

end TreeSchema
