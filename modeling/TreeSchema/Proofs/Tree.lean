/-
This file holds the finite trees that the links of a document may unfold to, and the
chains of links that lead from one node to the nodes below and after it. Links are
data and may lie, so nothing guarantees a tree: a link may lead back, or two links
may lead to the same node. A link unfolds to a tree if following first children and
next siblings comes to an end everywhere. The tree names no place twice exactly if no
place is reached by two chains, which is how sharing and cycles are excluded without
reference to any order in which the nodes are visited.
-/
import Mathlib.Logic.ExistsUnique
import TreeSchema.Document

namespace TreeSchema

/-- The links by which a node leads on. -/
inductive Link where
  | child
  | next
  deriving DecidableEq, Repr

/-- Where a link of a node leads. -/
def Node.link (node : Node) : Link → Option Nat
  | .child => node.child
  | .next => node.next

/-- A finite tree of nodes with their places: a node, what its first child unfolds to, and what
its next sibling unfolds to. -/
inductive NodeTree where
  | absent
  | node (place : Nat) (content : Node) (below after : NodeTree)
  deriving DecidableEq, Repr

namespace NodeTree

/-- The places of a tree: a node, then the nodes below it, then the nodes after it. -/
def places : NodeTree → List Nat
  | absent => []
  | node place _ below after => place :: (below.places ++ after.places)

/-- The place at the end of a chain of links. -/
def placeAt : NodeTree → List Link → Option Nat
  | absent, _ => none
  | node place _ _ _, [] => some place
  | node _ _ below _, .child :: chain => below.placeAt chain
  | node _ _ _ after, .next :: chain => after.placeAt chain

/-! ### Places and chains -/

theorem mem_places_iff {tree : NodeTree} {place : Nat} :
    place ∈ tree.places ↔ ∃ chain, tree.placeAt chain = some place := by
  induction tree with
  | absent => simp [places, placeAt]
  | node here content below after belowHypothesis afterHypothesis =>
    rw [places, List.mem_cons, List.mem_append, belowHypothesis, afterHypothesis]
    constructor
    · intro member
      rcases member with rfl | ⟨chain, found⟩ | ⟨chain, found⟩
      · exact ⟨[], rfl⟩
      · exact ⟨.child :: chain, found⟩
      · exact ⟨.next :: chain, found⟩
    · intro reached
      obtain ⟨chain, found⟩ := reached
      match chain, found with
      | [], found => exact Or.inl (Option.some.inj found).symm
      | .child :: chain, found => exact Or.inr (Or.inl ⟨chain, found⟩)
      | .next :: chain, found => exact Or.inr (Or.inr ⟨chain, found⟩)

/-- No place is at the end of two chains. -/
def Distinct (tree : NodeTree) : Prop :=
  ∀ place chain other, tree.placeAt chain = some place → tree.placeAt other = some place →
    chain = other

theorem distinct_of_nodup {tree : NodeTree} (nodup : tree.places.Nodup) : tree.Distinct := by
  induction tree with
  | absent =>
    intro place chain other found
    cases found
  | node here content below after belowHypothesis afterHypothesis =>
    rw [places, List.nodup_cons, List.nodup_append, List.mem_append, not_or] at nodup
    obtain ⟨⟨notBelow, notAfter⟩, nodupBelow, nodupAfter, apart⟩ := nodup
    intro place chain other found foundOther
    -- the first links of the two chains say in which part of the tree the place is
    match chain, other, found, foundOther with
    | [], [], _, _ => rfl
    | [], .child :: other, found, foundOther =>
      cases found
      exact absurd (mem_places_iff.mpr ⟨other, foundOther⟩) notBelow
    | [], .next :: other, found, foundOther =>
      cases found
      exact absurd (mem_places_iff.mpr ⟨other, foundOther⟩) notAfter
    | .child :: chain, [], found, foundOther =>
      cases foundOther
      exact absurd (mem_places_iff.mpr ⟨chain, found⟩) notBelow
    | .next :: chain, [], found, foundOther =>
      cases foundOther
      exact absurd (mem_places_iff.mpr ⟨chain, found⟩) notAfter
    | .child :: chain, .child :: other, found, foundOther =>
      rw [belowHypothesis nodupBelow place chain other found foundOther]
    | .next :: chain, .next :: other, found, foundOther =>
      rw [afterHypothesis nodupAfter place chain other found foundOther]
    | .child :: chain, .next :: other, found, foundOther =>
      exact absurd rfl (apart place (mem_places_iff.mpr ⟨chain, found⟩) place
        (mem_places_iff.mpr ⟨other, foundOther⟩))
    | .next :: chain, .child :: other, found, foundOther =>
      exact absurd rfl (apart place (mem_places_iff.mpr ⟨other, foundOther⟩) place
        (mem_places_iff.mpr ⟨chain, found⟩))

theorem nodup_of_distinct {tree : NodeTree} (distinct : tree.Distinct) : tree.places.Nodup := by
  induction tree with
  | absent => exact List.nodup_nil
  | node here content below after belowHypothesis afterHypothesis =>
    rw [places, List.nodup_cons, List.nodup_append, List.mem_append, not_or]
    refine ⟨⟨?_, ?_⟩, ?_, ?_, ?_⟩
    · intro inBelow
      obtain ⟨chain, found⟩ := mem_places_iff.mp inBelow
      cases distinct here [] (.child :: chain) rfl found
    · intro inAfter
      obtain ⟨chain, found⟩ := mem_places_iff.mp inAfter
      cases distinct here [] (.next :: chain) rfl found
    · refine belowHypothesis fun place chain other found foundOther => ?_
      exact List.tail_eq_of_cons_eq
        (distinct place (.child :: chain) (.child :: other) found foundOther)
    · refine afterHypothesis fun place chain other found foundOther => ?_
      exact List.tail_eq_of_cons_eq
        (distinct place (.next :: chain) (.next :: other) found foundOther)
    · intro place inBelow other inAfter same
      subst same
      obtain ⟨chain, found⟩ := mem_places_iff.mp inBelow
      obtain ⟨other, foundOther⟩ := mem_places_iff.mp inAfter
      cases distinct place (.child :: chain) (.next :: other) found foundOther

/-! ### The parts of a tree without repeated places -/

section Parts

variable {place : Nat} {content : Node} {below after : NodeTree} {met metAfter seen : List Nat}

theorem nodup_below (nodup : (node place content below after).places.Nodup) :
    below.places.Nodup := by
  rw [places, List.nodup_cons, List.nodup_append] at nodup
  exact nodup.2.1

theorem nodup_after (nodup : (node place content below after).places.Nodup) :
    after.places.Nodup := by
  rw [places, List.nodup_cons, List.nodup_append] at nodup
  exact nodup.2.2.1

/-- No place below a node was met by the time the node was met. -/
theorem fresh_below (nodup : (node place content below after).places.Nodup)
    (fresh : ∀ other ∈ (node place content below after).places, other ∉ seen) :
    ∀ other ∈ below.places, other ∉ place :: seen := by
  rw [places, List.nodup_cons, List.mem_append, not_or] at nodup
  intro other member
  rw [List.mem_cons, not_or]
  exact ⟨fun same => nodup.1.1 (same ▸ member),
    fresh other (List.mem_cons_of_mem _ (List.mem_append_left _ member))⟩

/-- No place after a node was met by the time the places below it were met. -/
theorem fresh_after (nodup : (node place content below after).places.Nodup)
    (fresh : ∀ other ∈ (node place content below after).places, other ∉ seen)
    (within : met ⊆ below.places) :
    ∀ other ∈ after.places, other ∉ met ++ place :: seen := by
  rw [places, List.nodup_cons, List.nodup_append, List.mem_append, not_or] at nodup
  obtain ⟨⟨_, notAfter⟩, _, _, apart⟩ := nodup
  intro other member
  rw [List.mem_append, List.mem_cons, not_or, not_or]
  exact ⟨fun inBelow => apart other (within inBelow) other member rfl,
    fun same => notAfter (same ▸ member),
    fresh other (List.mem_cons_of_mem _ (List.mem_append_right _ member))⟩

/-- What was met of a tree is what was met after its node, what was met below it, and its node. -/
theorem met_subset (withinBelow : met ⊆ below.places) (withinAfter : metAfter ⊆ after.places) :
    metAfter ++ (met ++ [place]) ⊆ (node place content below after).places := by
  rw [places]
  refine List.append_subset.mpr ⟨?_, List.append_subset.mpr ⟨?_, ?_⟩⟩
  · exact List.subset_cons_of_subset _ (List.subset_append_of_subset_right _ withinAfter)
  · exact List.subset_cons_of_subset _ (List.subset_append_of_subset_left _ withinBelow)
  · exact List.cons_subset.mpr ⟨List.mem_cons_self, List.nil_subset _⟩

end Parts

end NodeTree

namespace Document

/-! ### Unfolding -/

/-- Following first children and next siblings from a link gives the tree. -/
inductive Unfolds (document : Document) : Option Nat → NodeTree → Prop where
  | absent {link : Option Nat} (nowhere : document.follow link = none) :
      Unfolds document link .absent
  | node {link : Option Nat} {place : Nat} {content : Node} {below after : NodeTree}
      (found : document.follow link = some (place, content))
      (child : Unfolds document content.child below)
      (next : Unfolds document content.next after) :
      Unfolds document link (.node place content below after)

/-- The place at the end of a chain of links that starts with the link given. -/
def reach (document : Document) : Option Nat → List Link → Option Nat
  | start, [] => (document.follow start).map Prod.fst
  | start, link :: chain =>
    (document.follow start).bind fun found => document.reach (found.2.link link) chain

/-- Every node that is reached is reached by one chain of links only. -/
def ReachedOnce (document : Document) (start : Option Nat) : Prop :=
  ∀ place, (∃ chain, document.reach start chain = some place) →
    ∃! chain, document.reach start chain = some place

theorem reach_eq_placeAt {document : Document} {start : Option Nat} {tree : NodeTree}
    (unfolds : document.Unfolds start tree) (chain : List Link) :
    document.reach start chain = tree.placeAt chain := by
  induction unfolds generalizing chain with
  | absent nowhere =>
    cases chain with
    | nil => rw [reach, nowhere]; rfl
    | cons link chain => rw [reach, nowhere]; rfl
  | node found child next childHypothesis nextHypothesis =>
    match chain with
    | [] => rw [reach, found]; rfl
    | .child :: chain =>
      rw [reach, found]
      exact childHypothesis chain
    | .next :: chain =>
      rw [reach, found]
      exact nextHypothesis chain

theorem reachedOnce_iff_nodup {document : Document} {start : Option Nat} {tree : NodeTree}
    (unfolds : document.Unfolds start tree) :
    document.ReachedOnce start ↔ tree.places.Nodup := by
  have reached (chain : List Link) := reach_eq_placeAt unfolds chain
  constructor
  · intro once
    refine NodeTree.nodup_of_distinct fun place chain other found foundOther => ?_
    rw [← reached] at found foundOther
    obtain ⟨_, _, only⟩ := once place ⟨chain, found⟩
    rw [only chain found, only other foundOther]
  · intro nodup place somehow
    obtain ⟨chain, found⟩ := somehow
    refine ⟨chain, found, fun other foundOther => ?_⟩
    rw [reached] at found foundOther
    exact NodeTree.distinct_of_nodup nodup place other chain foundOther found

/-- What is reached from a link is a finite tree: following the links comes to an end everywhere,
and no two chains lead to one node. -/
def IsTree (document : Document) (start : Option Nat) : Prop :=
  (∃ tree, document.Unfolds start tree) ∧ document.ReachedOnce start

theorem isTree_iff {document : Document} {start : Option Nat} :
    document.IsTree start ↔ ∃ tree, document.Unfolds start tree ∧ tree.places.Nodup := by
  constructor
  · intro isTree
    obtain ⟨⟨tree, unfolds⟩, once⟩ := isTree
    exact ⟨tree, unfolds, (reachedOnce_iff_nodup unfolds).mp once⟩
  · intro unfolding
    obtain ⟨tree, unfolds, nodup⟩ := unfolding
    exact ⟨⟨tree, unfolds⟩, (reachedOnce_iff_nodup unfolds).mpr nodup⟩

/-! ### The node before the tree -/

/-- The link from the header, if there is one, to the node after it. -/
def afterHeader (document : Document) (root : Option Nat) : Option Nat :=
  (document.follow root).bind fun found => found.2.next

/-- A chain ends at a node. -/
theorem exists_node_of_reach {document : Document} {start : Option Nat} {chain : List Link}
    {place : Nat} (reached : document.reach start chain = some place) :
    ∃ node, document.node? place = some node := by
  induction chain generalizing start with
  | nil =>
    rw [reach, Option.map_eq_some_iff] at reached
    obtain ⟨⟨other, node⟩, followed, rfl⟩ := reached
    exact ⟨node, (follow_eq_some_iff.mp followed).2⟩
  | cons link chain inductionHypothesis =>
    rw [reach, Option.bind_eq_some_iff] at reached
    obtain ⟨_, _, reached⟩ := reached
    exact inductionHypothesis reached

/-- A chain that leads anywhere starts at a node. -/
theorem exists_start_of_reach {document : Document} {start : Option Nat} {chain : List Link}
    {place : Nat} (reached : document.reach start chain = some place) :
    ∃ first, document.reach start [] = some first := by
  rw [reach]
  cases followed : document.follow start with
  | some found => exact ⟨found.1, rfl⟩
  | none =>
    cases chain with
    | nil => rw [reach, followed] at reached; cases reached
    | cons link chain => rw [reach, followed] at reached; cases reached

/-- One more link at the end of a chain. -/
theorem reach_concat {document : Document} {start : Option Nat} {chain : List Link} {place : Nat}
    {node : Node} (reached : document.reach start chain = some place)
    (here : document.node? place = some node) (link : Link) :
    document.reach start (chain ++ [link]) = (document.follow (node.link link)).map Prod.fst := by
  induction chain generalizing start with
  | nil =>
    rw [reach, Option.map_eq_some_iff] at reached
    obtain ⟨⟨other, found⟩, followed, rfl⟩ := reached
    obtain ⟨_, there⟩ := follow_eq_some_iff.mp followed
    rw [there, Option.some.injEq] at here
    subst here
    rw [List.nil_append, reach, followed]
    rfl
  | cons first chain inductionHypothesis =>
    rw [reach, Option.bind_eq_some_iff] at reached
    obtain ⟨found, followed, reached⟩ := reached
    rw [List.cons_append, reach, followed]
    exact inductionHypothesis reached

/-- No chain leads back to the header: one link more would lead to the first node once again. -/
theorem not_reach_header {document : Document} {root : Option Nat}
    (once : document.ReachedOnce (document.afterHeader root)) (chain : List Link) {place : Nat}
    (header : root = some place) :
    document.reach (document.afterHeader root) chain ≠ some place := by
  intro reached
  obtain ⟨node, here⟩ := exists_node_of_reach reached
  have start : document.afterHeader root = node.next := by
    rw [afterHeader, follow_eq_some_iff.mpr ⟨header, here⟩]
    rfl
  rw [start] at once reached
  have again : document.reach node.next (chain ++ [.next]) = document.reach node.next [] :=
    reach_concat reached here .next
  obtain ⟨first, found⟩ := exists_start_of_reach reached
  obtain ⟨_, _, only⟩ := once first ⟨[], found⟩
  have same := (only [] found).trans (only (chain ++ [.next]) (again.trans found)).symm
  exact absurd same (by simp)

end Document

end TreeSchema
