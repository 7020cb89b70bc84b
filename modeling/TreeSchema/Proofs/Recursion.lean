/-
This file proves that the walk with its list of waiting slots is the recursion over a
finite tree, step for step: it reports the same entries in the same order, counts the
same nodes and comes to the same verdict, and it breaks off where the recursion does.
The recursion knows neither waiting slots nor counted nodes. It visits a node, then
everything below it, then everything after it, and hands only the path of the parent
and the index among the siblings down.
-/
import TreeSchema.Catalog.BuiltIn
import TreeSchema.Proofs.Direct

namespace TreeSchema.Direct

/-! ### The recursion -/

/-- The visit to a tree whose node is expected under a parent path, at an index among its siblings:
an absent node is reported unless the candidates allow it, a node that no candidate accepts ends the
visit, and a node that is bound is followed by the tree below it, then by the tree after it. -/
def visit (schema : Schema) :
    NodeTree → List Reference → (parentPath : String) → (index : Nat) → Log →
      Except Failure Outcome
  | .absent, candidates, parentPath, index, log =>
    if .absent ∈ candidates then .ok ⟨true, 0, log⟩
    else do
      let path := parentPath ++ "/#" ++ toString index
      let log ← record log (Visit.missingEntry path candidates)
      return ⟨false, 0, log⟩
  | .node place node below after, candidates, parentPath, index, log => do
    let path := parentPath ++ "/#" ++ toString index
    let (bound, log) ← choose schema path place node candidates log
    match bound with
    | none =>
      let log ← record log (Visit.unidentifiedEntry path place node candidates)
      return ⟨false, 1, log⟩
    | some definition =>
      let log ← record log (Visit.matchedEntry path place node definition)
      let here := parentPath ++ Slot.stepText (definition.name, index)
      let child ← visit schema below definition.children.references here 0 log
      let sibling ←
        visit schema after definition.nextSiblings.references parentPath (index + 1) child.log
      return ⟨child.ok && sibling.ok, 1 + child.counted + sibling.counted, sibling.log⟩

/-- The visit to a node, step by step. -/
theorem visit_node (schema : Schema) (place : Nat) (node : Node) (below after : NodeTree)
    (candidates : List Reference) (parentPath : String) (index : Nat) (log : Log) :
    visit schema (.node place node below after) candidates parentPath index log =
      choose schema (parentPath ++ "/#" ++ toString index) place node candidates log >>=
        fun (bound, log) =>
          match bound with
          | none =>
            record log (Visit.unidentifiedEntry (parentPath ++ "/#" ++ toString index) place node
              candidates) >>= fun log => .ok ⟨false, 1, log⟩
          | some definition =>
            record log (Visit.matchedEntry (parentPath ++ "/#" ++ toString index) place node
              definition) >>= fun log =>
              visit schema below definition.children.references
                (parentPath ++ Slot.stepText (definition.name, index)) 0 log >>= fun child =>
                visit schema after definition.nextSiblings.references parentPath (index + 1)
                  child.log >>= fun sibling =>
                  .ok ⟨child.ok && sibling.ok, 1 + child.counted + sibling.counted,
                    sibling.log⟩ := rfl

/-- What a walk has come to after a visit that went on with its log. -/
def Outcome.join (outcome found : Outcome) : Outcome :=
  ⟨outcome.ok && found.ok, outcome.counted + found.counted, found.log⟩

/-- What is below a node and what is after it are joined one by one or both at once. -/
theorem Outcome.join_join (outcome child sibling : Outcome) (log : Log) :
    (Outcome.join ⟨outcome.ok, outcome.counted + 1, log⟩ child).join sibling =
      outcome.join ⟨child.ok && sibling.ok, 1 + child.counted + sibling.counted, sibling.log⟩ := by
  simp only [join, Bool.and_assoc, Nat.add_assoc]

/-! ### The walk over a tree -/

/-- The walk follows the recursion over a tree: it does to a slot in front what the recursion does
to the tree, and then goes on with the slots behind it. The nodes that it counts on the way are
nodes of the tree, of which none was counted before. -/
def Follows (schema : Schema) (document : Document) (slot : Slot) (tree : NodeTree) : Prop :=
  ∀ seen, (∀ place ∈ tree.places, place ∉ seen) → ∀ outcome rest,
    ∃ met, met ⊆ tree.places ∧ walk schema document none outcome seen (slot :: rest) =
      visit schema tree slot.candidates (Slot.stepsText slot.steps) slot.index outcome.log >>=
        fun found => walk schema document none (outcome.join found) (met ++ seen) rest

section Steps

variable {schema : Schema} {document : Document} {slot : Slot} {place : Nat} {node : Node}
  {below after : NodeTree}

theorem follows_absent (nowhere : document.follow slot.link = none) :
    Follows schema document slot .absent := by
  intro seen _ outcome rest
  refine ⟨[], List.nil_subset _, ?_⟩
  rw [visit]
  by_cases allowed : .absent ∈ slot.candidates
  · rw [walk_allowed nowhere allowed, if_pos allowed, ok_bind, Outcome.join, Bool.and_true]
    rfl
  · rw [walk_missing nowhere allowed, if_neg allowed]
    show (record _ _ >>= _) = (record _ _ >>= _) >>= _
    rw [bind_assoc]
    refine congrArg _ (funext fun log => ?_)
    rw [pure_bind, Outcome.join, Bool.and_false]
    rfl

/-- A node that no candidate accepts ends the visit, and the walk goes on behind it. -/
theorem walk_of_unbound (log : Log) (outcome : Outcome) (seen : List Nat) (rest : List Slot) :
    (record log (Visit.unidentifiedEntry slot.path place node slot.candidates) >>= fun log =>
        walk schema document none ⟨false, outcome.counted + 1, log⟩ (place :: seen) rest) =
      (record log (Visit.unidentifiedEntry slot.path place node slot.candidates) >>= fun log =>
        .ok ⟨false, 1, log⟩) >>= fun found =>
          walk schema document none (outcome.join found) ([place] ++ seen) rest := by
  rw [bind_assoc]
  refine congrArg _ (funext fun log => ?_)
  rw [ok_bind, Outcome.join, Bool.and_false]
  rfl

/-- Below a node that is bound, and then after it, the walk follows the recursion. -/
theorem walk_of_bound {definition : Definition}
    (nodup : (NodeTree.node place node below after).places.Nodup) {seen : List Nat}
    (fresh : ∀ other ∈ (NodeTree.node place node below after).places, other ∉ seen)
    (child : Follows schema document (slot.childSlot definition node) below)
    (next : Follows schema document (slot.nextSlot definition node) after)
    (outcome : Outcome) (log : Log) (rest : List Slot) :
    ∃ met, met ⊆ (NodeTree.node place node below after).places ∧
      walk schema document none ⟨outcome.ok, outcome.counted + 1, log⟩ (place :: seen)
          (slot.childSlot definition node :: slot.nextSlot definition node :: rest) =
        (visit schema below definition.children.references
            (Slot.stepsText slot.steps ++ Slot.stepText (definition.name, slot.index)) 0 log >>=
          fun child =>
            visit schema after definition.nextSiblings.references (Slot.stepsText slot.steps)
              (slot.index + 1) child.log >>= fun sibling =>
                .ok ⟨child.ok && sibling.ok, 1 + child.counted + sibling.counted, sibling.log⟩) >>=
          fun found => walk schema document none (outcome.join found) (met ++ seen) rest := by
  obtain ⟨met, within, walked⟩ := child (place :: seen) (NodeTree.fresh_below nodup fresh)
    ⟨outcome.ok, outcome.counted + 1, log⟩ (slot.nextSlot definition node :: rest)
  rw [walked]
  -- the slot of the child has the candidates, the path and the index of the inner visit
  let here := Slot.stepsText slot.steps ++ Slot.stepText (definition.name, slot.index)
  show ∃ met, _ ∧ visit schema below definition.children.references here 0 log >>= _ =
    (visit schema below definition.children.references here 0 log >>= _) >>= _
  cases visit schema below definition.children.references here 0 log with
  | error fault => exact ⟨[], List.nil_subset _, rfl⟩
  | ok inner =>
    obtain ⟨metAfter, withinAfter, walkedAfter⟩ := next (met ++ place :: seen)
      (NodeTree.fresh_after nodup fresh within)
      (Outcome.join ⟨outcome.ok, outcome.counted + 1, log⟩ inner) rest
    refine ⟨metAfter ++ (met ++ [place]), NodeTree.met_subset within withinAfter, ?_⟩
    rw [ok_bind, ok_bind, walkedAfter, bind_assoc]
    simp only [ok_bind, Outcome.join_join, List.append_assoc]
    rfl

theorem follows_node (found : document.follow slot.link = some (place, node))
    (nodup : (NodeTree.node place node below after).places.Nodup)
    (child : ∀ definition, Follows schema document (slot.childSlot definition node) below)
    (next : ∀ definition, Follows schema document (slot.nextSlot definition node) after) :
    Follows schema document slot (.node place node below after) := by
  intro seen fresh outcome rest
  have freshHere : place ∉ seen := fresh place List.mem_cons_self
  have path : Slot.stepsText slot.steps ++ "/#" ++ toString slot.index = slot.path := rfl
  rw [walk_counted found freshHere rfl, visit_node, path]
  cases choose schema slot.path place node slot.candidates outcome.log with
  | error fault => exact ⟨[], List.nil_subset _, rfl⟩
  | ok chosen =>
    obtain ⟨bound, log⟩ := chosen
    rw [ok_bind, ok_bind]
    cases bound with
    | none =>
      refine ⟨[place], List.cons_subset.mpr ⟨List.mem_cons_self, List.nil_subset _⟩, ?_⟩
      exact walk_of_unbound log outcome seen rest
    | some definition =>
      dsimp only
      rw [record_debug rfl, ok_bind, ok_bind]
      exact walk_of_bound nodup fresh (child definition) (next definition) outcome _ rest

end Steps

theorem follows_of_unfolds (schema : Schema) {document : Document} {tree : NodeTree} (slot : Slot)
    (unfolds : document.Unfolds slot.link tree) (nodup : tree.places.Nodup) :
    Follows schema document slot tree := by
  induction tree generalizing slot with
  | absent =>
    cases unfolds with
    | absent nowhere => exact follows_absent nowhere
  | node place node below after belowHypothesis afterHypothesis =>
    cases unfolds with
    | node found child next =>
      refine follows_node found nodup (fun definition => ?_) (fun definition => ?_)
      · exact belowHypothesis (slot.childSlot definition node) child (NodeTree.nodup_below nodup)
      · exact afterHypothesis (slot.nextSlot definition node) next (NodeTree.nodup_after nodup)

/-- The walk from a link that unfolds to a tree without repeated places is the recursion over that
tree, whatever the candidates for its first node and whatever the log: both break off, or both come
to the same verdict, number of nodes and log. If every name among the candidates is defined, neither
breaks off, and what they come to is what the visits of the prepared walk say. -/
theorem walkFrom_eq_visit (schema : Schema) {document : Document} {first : Option Nat}
    {tree : NodeTree} (unfolds : document.Unfolds first tree) (nodup : tree.places.Nodup)
    (candidates : List Reference) (log : Log) :
    walkFrom schema document none ⟨first, candidates, [], 1⟩ log =
        visit schema tree candidates "" 1 log ∧
      (schema.Resolves candidates →
        visit schema tree candidates "" 1 log =
          .ok (Outcome.after ⟨true, 0, log⟩
            ((schema.walk document none).visits [] [⟨first, candidates, [], 1⟩]))) := by
  obtain ⟨met, _, walked⟩ := follows_of_unfolds schema ⟨first, candidates, [], 1⟩ unfolds nodup []
    (fun _ _ => List.not_mem_nil) ⟨true, 0, log⟩ []
  have same : walkFrom schema document none ⟨first, candidates, [], 1⟩ log =
      visit schema tree candidates "" 1 log := by
    rw [walkFrom, walked]
    simp only [walk_nil, Outcome.join, Bool.true_and, Nat.zero_add]
    exact bind_pure _
  refine ⟨same, fun resolves => ?_⟩
  rw [← same]
  exact walkFrom_unlimited resolves document log

/-- A head with two titles below it, the second of them with data that is not accepted. -/
theorem walkFrom_eq_visit_titles :
    let head : Node := { Node.alone "file" "" 0 with child := some 1 }
    let title : Node := { Node.alone "first" "image[1,2,3,4]" 1 with next := some 2 }
    let other : Node := Node.alone "second" "image[1,2]" 1
    let candidates : List Reference := [.named "head"]
    let tree : NodeTree :=
      .node 0 head (.node 1 title .absent (.node 2 other .absent .absent)) .absent
    let document : Document := ⟨#[head, title, other]⟩
    walkFrom Catalog.ghdrVersion1 document none ⟨some 0, candidates, [], 1⟩ (Log.empty true) =
        visit Catalog.ghdrVersion1 tree candidates "" 1 (Log.empty true) ∧
      visit Catalog.ghdrVersion1 tree candidates "" 1 (Log.empty true) =
        .ok (Outcome.after ⟨true, 0, Log.empty true⟩
          ((Catalog.ghdrVersion1.walk document none).visits [] [⟨some 0, candidates, [], 1⟩])) := by
  intro head title other candidates tree document
  have unfolds : document.Unfolds (some 0) tree :=
    .node rfl (.node rfl (.absent rfl) (.node rfl (.absent rfl) (.absent rfl))) (.absent rfl)
  have nodup : tree.places.Nodup := by decide
  have resolves : Catalog.ghdrVersion1.Resolves candidates := by
    intro name member
    rw [Reference.named.inj (List.mem_singleton.mp member)]
    exact ⟨Catalog.ghdrHead, rfl⟩
  obtain ⟨same, prepared⟩ :=
    walkFrom_eq_visit Catalog.ghdrVersion1 unfolds nodup candidates (Log.empty true)
  exact ⟨same, prepared resolves⟩

end TreeSchema.Direct
