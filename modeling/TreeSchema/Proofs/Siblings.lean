/-
This file holds chains of siblings. Following next siblings may go round in a circle;
where it comes to an end, no node comes twice, whatever the other links of the
document are, because each node of the chain has its own number of nodes after it.
If besides no node of the chain has a child, the chain is a tree by itself.
-/
import TreeSchema.Proofs.Tree

namespace TreeSchema

/-- The nodes, with their places, one after the other, and nothing below them. -/
def NodeTree.row : List (Nat × Node) → NodeTree
  | [] => absent
  | entry :: rest => node entry.1 entry.2 absent (row rest)

theorem NodeTree.places_row (nodes : List (Nat × Node)) :
    (row nodes).places = nodes.map Prod.fst := by
  induction nodes with
  | nil => rfl
  | cons entry rest inductionHypothesis =>
    rw [row, places, inductionHypothesis]
    rfl

namespace Document

/-- Following next siblings from a link leads to these nodes, with their places, and comes to an end
after them. -/
inductive Siblings (document : Document) : Option Nat → List (Nat × Node) → Prop where
  | nil {link : Option Nat} (nowhere : document.follow link = none) : Siblings document link []
  | cons {link : Option Nat} {entry : Nat × Node} {rest : List (Nat × Node)}
      (found : document.follow link = some entry) (next : Siblings document entry.2.next rest) :
      Siblings document link (entry :: rest)

namespace Siblings

variable {document : Document} {link : Option Nat} {nodes others : List (Nat × Node)}

theorem unique (siblings : document.Siblings link nodes) (again : document.Siblings link others) :
    nodes = others := by
  induction siblings generalizing others with
  | nil nowhere =>
    cases again with
    | nil => rfl
    | cons found => cases nowhere.symm.trans found
  | cons found _ inductionHypothesis =>
    cases again with
    | nil nowhere => cases found.symm.trans nowhere
    | cons foundAgain next =>
      cases found.symm.trans foundAgain
      rw [inductionHypothesis next]

theorem node?_of_mem (siblings : document.Siblings link nodes) {entry : Nat × Node}
    (member : entry ∈ nodes) : document.node? entry.1 = some entry.2 := by
  induction siblings with
  | nil => cases member
  | cons found _ inductionHypothesis =>
    rcases List.mem_cons.mp member with rfl | later
    · exact (follow_eq_some_iff.mp found).2
    · exact inductionHypothesis later

/-- Fewer nodes follow each of the siblings than there are siblings. -/
theorem exists_after_of_mem (siblings : document.Siblings link nodes) {entry : Nat × Node}
    (member : entry ∈ nodes) :
    ∃ after, document.Siblings entry.2.next after ∧ after.length < nodes.length := by
  induction siblings with
  | nil => cases member
  | cons _ next inductionHypothesis =>
    rcases List.mem_cons.mp member with rfl | later
    · exact ⟨_, next, Nat.lt_succ_self _⟩
    · obtain ⟨after, siblings, shorter⟩ := inductionHypothesis later
      exact ⟨after, siblings, Nat.lt_succ_of_lt shorter⟩

/-- No sibling comes twice: if one did, the same number of nodes would follow it both times. -/
theorem nodup (siblings : document.Siblings link nodes) : (nodes.map Prod.fst).Nodup := by
  induction siblings with
  | nil => exact List.nodup_nil
  | @cons link entry rest found next inductionHypothesis =>
    rw [List.map_cons, List.nodup_cons]
    refine ⟨fun again => ?_, inductionHypothesis⟩
    obtain ⟨other, member, same⟩ := List.mem_map.mp again
    have content : some other.2 = some entry.2 := by
      rw [← next.node?_of_mem member, same, (follow_eq_some_iff.mp found).2]
    obtain ⟨after, nextAfter, shorter⟩ := next.exists_after_of_mem member
    rw [Option.some.inj content] at nextAfter
    rw [next.unique nextAfter] at shorter
    exact Nat.lt_irrefl _ shorter

theorem unfolds_row (siblings : document.Siblings link nodes)
    (childless : ∀ entry ∈ nodes, document.follow entry.2.child = none) :
    document.Unfolds link (NodeTree.row nodes) := by
  induction siblings with
  | nil nowhere => exact .absent nowhere
  | cons found _ inductionHypothesis =>
    rw [List.forall_mem_cons] at childless
    exact .node found (.absent childless.1) (inductionHypothesis childless.2)

end Siblings

end Document

end TreeSchema
