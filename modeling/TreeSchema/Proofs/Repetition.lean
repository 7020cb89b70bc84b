/-
This file says when no node is found a second time in a walk. Every slot that waits leads
along first children and next siblings to whatever it leads to. If these are finite trees that
have no place in common with each other or with the nodes counted so far, then the node in the
slot in front was not counted yet, and once it is counted the trees below and after it, which
were parts of its own, wait in its place. So this stays true to the end of the walk, with a
limit or without one, and no visit finds a node that was found before.
-/
import TreeSchema.Proofs.Visits

namespace TreeSchema

namespace Walk

variable {walk : Walk} {seen : List Nat} {slot : Slot} {rest : List Slot}

/-- The slots that wait lead to trees that have no place in common with each other or with the nodes
that were counted. -/
def Unshared (walk : Walk) (seen : List Nat) (waiting : List Slot) : Prop :=
  ∃ trees, List.Forall₂ (fun slot tree => walk.document.Unfolds slot.link tree) waiting trees ∧
    (trees.flatMap NodeTree.places).Nodup ∧
    ∀ place ∈ trees.flatMap NodeTree.places, place ∉ seen

theorem Unshared.of_empty (unshared : walk.Unshared seen (slot :: rest))
    (nowhere : walk.follow slot.link = none) : walk.Unshared seen rest := by
  obtain ⟨_, unfold, nodup, fresh⟩ := unshared
  obtain ⟨tree, trees, unfolds, unfoldRest, rfl⟩ := List.forall₂_cons_left_iff.mp unfold
  cases unfolds with
  | absent => exact ⟨trees, unfoldRest, nodup, fresh⟩
  | node found => cases nowhere.symm.trans found

section Found

variable {place : Nat} {node : Node}

theorem Unshared.not_mem (unshared : walk.Unshared seen (slot :: rest))
    (found : walk.follow slot.link = some (place, node)) : place ∉ seen := by
  obtain ⟨_, unfold, _, fresh⟩ := unshared
  obtain ⟨tree, trees, unfolds, _, rfl⟩ := List.forall₂_cons_left_iff.mp unfold
  cases unfolds with
  | absent nowhere => cases nowhere.symm.trans found
  | node foundAgain =>
    cases found.symm.trans foundAgain
    exact fresh place List.mem_cons_self

/-- Counting a node keeps the trees apart: those below and after it were parts of its own. -/
theorem Unshared.opened (unshared : walk.Unshared seen (slot :: rest))
    (found : walk.follow slot.link = some (place, node)) :
    walk.Unshared (place :: seen)
      ((⟨slot, walk.nodeFinding slot place node⟩ : Visit).opened ++ rest) := by
  obtain ⟨_, unfold, nodup, fresh⟩ := unshared
  obtain ⟨tree, trees, unfolds, unfoldRest, rfl⟩ := List.forall₂_cons_left_iff.mp unfold
  cases unfolds with
  | absent nowhere => cases nowhere.symm.trans found
  | @node _ _ _ below after foundAgain child next =>
    cases found.symm.trans foundAgain
    rw [List.flatMap_cons, NodeTree.places, List.cons_append, List.nodup_cons] at nodup
    rw [List.flatMap_cons, NodeTree.places, List.cons_append, List.forall_mem_cons] at fresh
    have freshRest : ∀ other ∈ (below.places ++ after.places) ++ trees.flatMap NodeTree.places,
        other ∉ place :: seen := by
      intro other member
      rw [List.mem_cons, not_or]
      exact ⟨fun same => nodup.1 (same ▸ member), fresh.2 other member⟩
    cases bound : walk.boundRule slot node with
    | none =>
      rw [opened_of_none bound]
      exact ⟨trees, unfoldRest, (List.nodup_append.mp nodup.2).2.1,
        fun other member => freshRest other (List.mem_append_right _ member)⟩
    | some rule =>
      rw [opened_of_some bound]
      refine ⟨below :: after :: trees, .cons child (.cons next unfoldRest), ?_, ?_⟩
      · rw [List.flatMap_cons, List.flatMap_cons, ← List.append_assoc]
        exact nodup.2
      · rw [List.flatMap_cons, List.flatMap_cons, ← List.append_assoc]
        exact freshRest

end Found

/-- No node is found a second time where the links that wait lead to trees apart from each other. -/
theorem code?_ne_cyclicLink {waiting : List Slot} (unshared : walk.Unshared seen waiting) :
    ∀ visit ∈ walk.visits seen waiting, visit.finding.code? ≠ some .cyclicLink := by
  induction seen, waiting using visits_induction walk with
  | nil seen =>
    rw [visits_nil]
    exact fun _ member => (List.not_mem_nil member).elim
  | empty seen slot rest nowhere inductionHypothesis =>
    rw [visits_empty nowhere, List.forall_mem_cons, code?_emptyFinding]
    refine ⟨?_, inductionHypothesis (unshared.of_empty nowhere)⟩
    split <;> simp
  | repeated seen slot rest place node found known _ =>
    exact absurd known (unshared.not_mem found)
  | overLimit seen slot rest place node limit found fresh exceeded =>
    rw [visits_overLimit found fresh exceeded, List.forall_mem_singleton]
    simp [Finding.code?]
  | counted seen slot rest place node found fresh within inductionHypothesis =>
    rw [visits_counted found fresh within, List.forall_mem_cons]
    refine ⟨?_, inductionHypothesis (unshared.opened found)⟩
    rcases code?_nodeFinding walk slot place node with code | code
    · rw [code]; simp
    · rw [code]; simp

end Walk

/-- A verification reports no node as reached twice if what follows after the header is a tree. -/
theorem byCode_cyclicLink_of_unfolds (options : Options) (catalog : Catalog) (schema : Schema)
    {document : Document} {root : Option Nat} {tree : NodeTree}
    (unfolds : document.Unfolds (document.afterHeader root) tree) (nodup : tree.places.Nodup)
    (filePath : String) :
    (verify options catalog schema document root filePath).byCode .cyclicLink = [] := by
  have places : [tree].flatMap NodeTree.places = tree.places := List.flatMap_singleton ..
  have unshared : (schema.walk document options.limit).Unshared []
      [Verification.firstSlot schema (document.afterHeader root)] :=
    ⟨[tree], .cons unfolds .nil, places.symm ▸ nodup, fun _ _ => List.not_mem_nil⟩
  rw [← List.length_eq_zero_iff, length_byCode_verify _ _ _ _ _ _ (by decide),
    List.countP_eq_zero]
  intro visit member same
  exact Walk.code?_ne_cyclicLink unshared visit member (beq_iff_eq.mp same)

end TreeSchema
