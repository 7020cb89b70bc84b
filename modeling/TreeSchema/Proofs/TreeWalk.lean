/-
This file relates the walk, which keeps the slots that wait in a list and remembers
the nodes it counted, to the recursion over a finite tree, which does neither. If a
link unfolds to a tree without repeated places, none of which was counted before, the
walk visits that tree in the order of the recursion, then goes on with the slots that
wait behind it. Conversely, if nothing is wrong in any visit of a walk, every link
that waits unfolds to a tree, and no place occurs twice in these trees.
-/
import Mathlib.Data.List.Forall2
import TreeSchema.Proofs.Tree
import TreeSchema.Verification.Walk

namespace TreeSchema

/-- The walk of a document under a schema. -/
def Schema.walk (schema : Schema) (document : Document) (limit : Option Limit) : Walk :=
  ⟨document, schema.rules, limit⟩

namespace Walk

/-- Whatever holds of every walk whose next steps it holds of, holds of every walk. -/
@[elab_as_elim]
theorem visits_induction (walk : Walk) {motive : List Nat → List Slot → Prop}
    (nil : ∀ seen, motive seen [])
    (empty : ∀ seen slot rest, walk.follow slot.link = none → motive seen rest →
      motive seen (slot :: rest))
    (repeated : ∀ seen slot rest place node, walk.follow slot.link = some (place, node) →
      place ∈ seen → motive seen rest → motive seen (slot :: rest))
    (overLimit : ∀ seen slot rest place node limit,
      walk.follow slot.link = some (place, node) → place ∉ seen →
      walk.exceeded? seen.length = some limit → motive seen (slot :: rest))
    (counted : ∀ seen slot rest place node, walk.follow slot.link = some (place, node) →
      place ∉ seen → walk.exceeded? seen.length = none →
      motive (place :: seen)
        ((⟨slot, walk.nodeFinding slot place node⟩ : Visit).opened ++ rest) →
      motive seen (slot :: rest))
    (seen : List Nat) (waiting : List Slot) : motive seen waiting :=
  visits.induct walk motive nil empty repeated
    (fun seen slot rest place node found fresh limit =>
      overLimit seen slot rest place node limit found fresh)
    counted seen waiting

/-! ### What is found at a node -/

/-- The first rule that accepts a node in a slot. -/
def boundRule (walk : Walk) (slot : Slot) (node : Node) : Option Rule :=
  (Rule.bind node (Rule.tried walk.rules slot.candidates)).2

/-- The rules that are tried in vain for a node in a slot. -/
def rejectedRules (walk : Walk) (slot : Slot) (node : Node) : List Rule :=
  (Rule.bind node (Rule.tried walk.rules slot.candidates)).1

theorem nodeFinding_of_none {walk : Walk} {slot : Slot} {node : Node}
    (unbound : walk.boundRule slot node = none) (place : Nat) :
    walk.nodeFinding slot place node =
      .unidentified place node (walk.rejectedRules slot node) := by
  unfold boundRule at unbound
  unfold nodeFinding rejectedRules
  split
  next rejected same => rw [same]
  next rejected rule same =>
    rw [same] at unbound
    cases unbound

theorem nodeFinding_of_some {walk : Walk} {slot : Slot} {node : Node} {rule : Rule}
    (bound : walk.boundRule slot node = some rule) (place : Nat) :
    walk.nodeFinding slot place node =
      .bound place node (walk.rejectedRules slot node) rule := by
  unfold boundRule at bound
  unfold nodeFinding rejectedRules
  split
  next rejected same =>
    rw [same] at bound
    cases bound
  next rejected other same =>
    rw [same, Option.some.injEq] at bound
    rw [same, bound]

/-- A node that is bound opens the slots of its first child and of its next sibling. -/
theorem opened_of_some {walk : Walk} {slot : Slot} {node : Node} {rule : Rule}
    (bound : walk.boundRule slot node = some rule) (place : Nat) :
    (⟨slot, walk.nodeFinding slot place node⟩ : Visit).opened =
      [slot.childSlot rule.definition node, slot.nextSlot rule.definition node] := by
  rw [nodeFinding_of_some bound]
  rfl

/-- A node that is not bound opens no slot. -/
theorem opened_of_none {walk : Walk} {slot : Slot} {node : Node}
    (unbound : walk.boundRule slot node = none) (place : Nat) :
    (⟨slot, walk.nodeFinding slot place node⟩ : Visit).opened = [] := by
  rw [nodeFinding_of_none unbound]
  rfl

/-! ### The recursion over a tree -/

/-- The visits to a tree: its node, then the tree below it, then the tree after it. Nothing below or
after a node that no rule accepts is visited. -/
def visitTree (walk : Walk) : Slot → NodeTree → List Visit
  | slot, .absent => [⟨slot, emptyFinding slot⟩]
  | slot, .node place node below after =>
    ⟨slot, walk.nodeFinding slot place node⟩ ::
      match walk.boundRule slot node with
      | none => []
      | some rule =>
        walk.visitTree (slot.childSlot rule.definition node) below ++
          walk.visitTree (slot.nextSlot rule.definition node) after

/-- If nothing is wrong in any visit to a tree, every node of it is counted. -/
theorem countNodes_visitTree {walk : Walk} {tree : NodeTree} (slot : Slot)
    (conform : Visit.allConform (walk.visitTree slot tree) = true) :
    Visit.countNodes (walk.visitTree slot tree) = tree.places.length := by
  induction tree generalizing slot with
  | absent =>
    rw [visitTree, emptyFinding]
    split <;> rfl
  | node place node below after belowHypothesis afterHypothesis =>
    rw [visitTree, Visit.allConform, List.all_cons, Bool.and_eq_true] at conform
    obtain ⟨here, conformRest⟩ := conform
    cases bound : walk.boundRule slot node with
    | none =>
      rw [nodeFinding_of_none bound] at here
      cases here
    | some rule =>
      rw [bound, List.all_append, Bool.and_eq_true] at conformRest
      rw [visitTree, bound, Visit.countNodes, List.countP_cons, nodeFinding_of_some bound,
        ← Visit.countNodes, Visit.countNodes_append, belowHypothesis _ conformRest.1,
        afterHypothesis _ conformRest.2, NodeTree.places, List.length_cons, List.length_append]
      rfl

theorem exceeded?_of_unlimited {walk : Walk} (unlimited : walk.limit = none) (counted : Nat) :
    walk.exceeded? counted = none := by
  rw [exceeded?, unlimited]
  rfl

/-- The walk visits a tree as the recursion does, and then goes on with the slots behind it. The
nodes that are counted on the way are nodes of the tree. -/
theorem visits_of_unfolds {walk : Walk} (unlimited : walk.limit = none) {tree : NodeTree}
    (slot : Slot) (unfolds : walk.document.Unfolds slot.link tree) (nodup : tree.places.Nodup)
    {seen : List Nat} (fresh : ∀ place ∈ tree.places, place ∉ seen) (rest : List Slot) :
    ∃ met, met ⊆ tree.places ∧ walk.visits seen (slot :: rest) =
      walk.visitTree slot tree ++ walk.visits (met ++ seen) rest := by
  induction tree generalizing slot seen rest with
  | absent =>
    cases unfolds with
    | absent nowhere =>
      refine ⟨[], List.nil_subset _, ?_⟩
      rw [visits_empty nowhere]
      rfl
  | node place node below after belowHypothesis afterHypothesis =>
    cases unfolds with
    | node found child next =>
      have freshHere : place ∉ seen := fresh place List.mem_cons_self
      rw [visits_counted found freshHere (exceeded?_of_unlimited unlimited _), visitTree]
      cases bound : walk.boundRule slot node with
      | none =>
        refine ⟨[place], List.cons_subset.mpr ⟨List.mem_cons_self, List.nil_subset _⟩, ?_⟩
        rw [opened_of_none bound]
        rfl
      | some rule =>
        obtain ⟨met, within, visited⟩ := belowHypothesis (slot.childSlot rule.definition node)
          child (NodeTree.nodup_below nodup) (NodeTree.fresh_below nodup fresh)
          (slot.nextSlot rule.definition node :: rest)
        obtain ⟨metAfter, withinAfter, visitedAfter⟩ := afterHypothesis
          (slot.nextSlot rule.definition node) next (NodeTree.nodup_after nodup)
          (NodeTree.fresh_after nodup fresh within) rest
        refine ⟨metAfter ++ (met ++ [place]), NodeTree.met_subset within withinAfter, ?_⟩
        rw [opened_of_some bound, List.cons_append, List.cons_append, List.nil_append, visited,
          visitedAfter]
        simp only [List.cons_append, List.append_assoc, List.nil_append]

/-- The visits of a walk that starts with a tree. -/
theorem visits_eq_visitTree {walk : Walk} (unlimited : walk.limit = none) {tree : NodeTree}
    {slot : Slot} (unfolds : walk.document.Unfolds slot.link tree) (nodup : tree.places.Nodup) :
    walk.visits [] [slot] = walk.visitTree slot tree := by
  obtain ⟨met, _, visited⟩ :=
    visits_of_unfolds unlimited slot unfolds nodup (fun _ _ => List.not_mem_nil) []
  rw [visited, visits_nil, List.append_nil]

/-! ### From the visits to the trees -/

/-- If nothing is wrong in any visit, the slots that wait unfold to trees, and no place of theirs
occurs twice or was counted before. -/
theorem exists_trees_of_allConform {walk : Walk} (seen : List Nat) (waiting : List Slot)
    (conform : Visit.allConform (walk.visits seen waiting) = true) :
    ∃ trees, List.Forall₂ (fun slot tree => walk.document.Unfolds slot.link tree) waiting trees ∧
      (trees.flatMap NodeTree.places).Nodup ∧
      ∀ place ∈ trees.flatMap NodeTree.places, place ∉ seen := by
  induction seen, waiting using visits_induction walk with
  | nil seen => exact ⟨[], .nil, List.nodup_nil, fun _ member => absurd member List.not_mem_nil⟩
  | empty seen slot rest nowhere inductionHypothesis =>
    rw [visits_empty nowhere, Visit.allConform, List.all_cons, Bool.and_eq_true] at conform
    obtain ⟨trees, unfold, nodup, fresh⟩ := inductionHypothesis conform.2
    exact ⟨.absent :: trees, .cons (.absent nowhere) unfold, nodup, fresh⟩
  | repeated seen slot rest place node found known _ =>
    rw [visits_repeated found known, Visit.allConform, List.all_cons, Bool.and_eq_true] at conform
    cases conform.1
  | overLimit seen slot rest place node limit found fresh exceeded =>
    rw [visits_overLimit found fresh exceeded, Visit.allConform, List.all_cons,
      Bool.and_eq_true] at conform
    cases conform.1
  | counted seen slot rest place node found fresh within inductionHypothesis =>
    rw [visits_counted found fresh within, Visit.allConform, List.all_cons,
      Bool.and_eq_true] at conform
    obtain ⟨here, conformRest⟩ := conform
    cases bound : walk.boundRule slot node with
    | none =>
      rw [nodeFinding_of_none bound] at here
      cases here
    | some rule =>
      obtain ⟨opened, unfoldOpened, nodup, freshTrees⟩ := inductionHypothesis conformRest
      rw [opened_of_some bound, List.cons_append, List.cons_append, List.nil_append] at unfoldOpened
      -- the slots of the child and of the sibling wait in front, so theirs are the first two trees
      obtain ⟨below, others, child, unfoldOthers, rfl⟩ := List.forall₂_cons_left_iff.mp unfoldOpened
      obtain ⟨after, trees, next, unfold, rfl⟩ := List.forall₂_cons_left_iff.mp unfoldOthers
      refine ⟨.node place node below after :: trees, .cons (.node found child next) unfold, ?_, ?_⟩
      · rw [List.flatMap_cons, NodeTree.places, List.cons_append, List.append_assoc,
          ← List.flatMap_cons, ← List.flatMap_cons, List.nodup_cons]
        refine ⟨fun member => ?_, nodup⟩
        exact freshTrees place member List.mem_cons_self
      · intro other member
        rw [List.flatMap_cons, NodeTree.places, List.cons_append, List.append_assoc,
          ← List.flatMap_cons, ← List.flatMap_cons, List.mem_cons] at member
        rcases member with rfl | member
        · exact fresh
        · exact fun known => freshTrees other member (List.mem_cons_of_mem _ known)

/-- If nothing is wrong in any visit of a walk that starts with one slot, its link unfolds to a tree
without repeated places. -/
theorem exists_tree_of_allConform {walk : Walk} {slot : Slot}
    (conform : Visit.allConform (walk.visits [] [slot]) = true) :
    ∃ tree, walk.document.Unfolds slot.link tree ∧ tree.places.Nodup := by
  obtain ⟨trees, unfold, nodup, _⟩ := exists_trees_of_allConform [] [slot] conform
  obtain ⟨tree, _, unfolds, _, rfl⟩ := List.forall₂_cons_left_iff.mp unfold
  rw [List.flatMap_cons, List.nodup_append] at nodup
  exact ⟨tree, unfolds, nodup.1⟩

end Walk

end TreeSchema
