/-
This file says what a document looks like that was built from an outline. Read back along first
children and next siblings it shows the outline, and its other links say nothing else: previous
siblings answer next ones, parents and levels follow the nesting, and each record has a node of
its own. The nodes are paired with their places for this, so that what holds of the links of
each node is proved by induction on the outline, and nothing is counted. As what follows after
any node is a tree, no verification of such a document comes to a node twice.
-/
import TreeSchema.Document.Form
import TreeSchema.Proofs.Building
import TreeSchema.Proofs.Repetition
import TreeSchema.Proofs.Siblings

namespace TreeSchema

/-! ### Outlines as they are declared -/

namespace Outline

/-- The records declare the outline: each is a title, data and, possibly, the records of its
children. -/
inductive Declares : List Value → Outline → Prop where
  | done : Declares [] done
  | pair {title data : String} {records : List Value} {rest : Outline}
      (following : Declares records rest) :
      Declares (.list [.text title, .text data] :: records) (entry title data done rest)
  | triple {title data : String} {below records : List Value} {children rest : Outline}
      (inner : Declares below children) (following : Declares records rest) :
      Declares (.list [.text title, .text data, .list below] :: records)
        (entry title data children rest)

theorem ofRecords_of_declares {records : List Value} {outline : Outline}
    (declares : Declares records outline) : ofRecords records = .ok outline := by
  induction declares with
  | done => rw [ofRecords]
  | pair _ followingHypothesis =>
    rw [ofRecords, followingHypothesis]
    rfl
  | @triple title data below records children rest inner _ innerHypothesis followingHypothesis =>
    rw [ofRecords, followingHypothesis, ofForm, innerHypothesis]
    cases inner <;> rfl

end Outline

/-! ### Documents that mirror an outline -/

namespace Document

/-- Read from a link on, the document shows an outline. No record is shown by no node. The first
record is shown by a node with its title and its data, at the level, with the parent and behind
the sibling given; the first child of the node shows the children of the record one level deeper,
and its next sibling shows the records that come next. -/
inductive Shows (document : Document) :
    (level : Int) → (parent previous link : Option Nat) → Outline → Prop where
  | done {level : Int} {parent previous : Option Nat} :
      Shows document level parent previous none .done
  | entry {level : Int} {parent previous : Option Nat} {place : Nat} {node : Node}
      {children rest : Outline} (found : document.node? place = some node)
      (atLevel : node.level = level) (below : node.parent = parent)
      (behind : node.previous = previous)
      (child : Shows document (level + 1) (some place) none node.child children)
      (next : Shows document level parent (some place) node.next rest) :
      Shows document level parent previous (some place)
        (.entry node.title node.data children rest)

/-- A link shows one outline only. -/
theorem Shows.unique {document : Document} {level : Int} {parent previous link : Option Nat}
    {outline other : Outline} (shows : document.Shows level parent previous link outline)
    (again : document.Shows level parent previous link other) : other = outline := by
  induction shows generalizing other with
  | done =>
    cases again
    rfl
  | entry found _ _ _ _ _ childHypothesis nextHypothesis =>
    cases again with
    | entry foundAgain _ _ _ childAgain nextAgain =>
      cases found.symm.trans foundAgain
      rw [childHypothesis childAgain, nextHypothesis nextAgain]

/-- The document shows the outline and nothing else, and its links agree with each other. -/
structure Mirrors (document : Document) (level : Int) (first : Option Nat) (outline : Outline) :
    Prop where
  /-- Read back, the document gives the records, with the levels and parents that their nesting
  asks for, -/
  shows : document.Shows level none none first outline
  /-- and it gives no others. -/
  only : ∀ {other : Outline}, document.Shows level none none first other → other = outline
  /-- A node is the next sibling of another one exactly if that one is its previous sibling. -/
  next_iff : ∀ {place other : Nat} {node neighbour : Node}, document.node? place = some node →
    document.node? other = some neighbour →
      (node.next = some other ↔ neighbour.previous = some place)
  /-- A chain of siblings comes to an end, its first node has no previous sibling and its last node
  no next one. -/
  chainEnds : ∀ {start : Option Nat}, (start = first ∨
      ∃ place node, document.node? place = some node ∧ node.child = start) →
    ∃ nodes, document.Siblings start nodes ∧
      (∀ entry ∈ nodes.head?, entry.2.previous = none) ∧
      ∀ entry ∈ nodes.getLast?, entry.2.next = none
  /-- No node is reached in two ways, -/
  isTree : document.IsTree first
  /-- every node is reached, -/
  reached : ∀ {place : Nat}, place < document.size →
    ∃ chain, document.reach first chain = some place
  /-- and there are as many nodes as records. -/
  size : document.size = outline.size

end Document

/-! ### Nodes with their places -/

namespace Outline

/-- The nodes of an outline, laid out from `start` on, with their places. -/
def placed (start : Nat) (level : Int) (parent previous : Option Nat) (outline : Outline) :
    List (Node × Nat) :=
  (outline.layOut start level parent previous).zipIdx start

section Placed

variable {start : Nat} {level : Int} {parent previous : Option Nat}

theorem placed_entry (title data : String) (children rest : Outline) :
    (entry title data children rest).placed start level parent previous =
      (⟨title, data, level, parent, previous, rest.first? (start + 1 + children.size),
        children.first? (start + 1)⟩, start) ::
        (children.placed (start + 1) (level + 1) (some start) none ++
          rest.placed (start + 1 + children.size) level parent (some start)) := by
  rw [placed, layOut, List.zipIdx_cons, List.zipIdx_append, length_layOut]
  rfl

/-- A node of an outline is the one of the first record, or below it, or after it. -/
theorem mem_placed_entry {title data : String} {children rest : Outline} {pair : Node × Nat} :
    pair ∈ (entry title data children rest).placed start level parent previous ↔
      pair = (⟨title, data, level, parent, previous, rest.first? (start + 1 + children.size),
        children.first? (start + 1)⟩, start) ∨
      pair ∈ children.placed (start + 1) (level + 1) (some start) none ∨
      pair ∈ rest.placed (start + 1 + children.size) level parent (some start) := by
  rw [placed_entry, List.mem_cons, List.mem_append]

/-- The first node has the previous sibling that it was laid out with. -/
theorem exists_first {outline : Outline} {place : Nat}
    (first : outline.first? start = some place) :
    ∃ node, (node, place) ∈ outline.placed start level parent previous ∧
      node.previous = previous := by
  cases outline with
  | done => cases first
  | entry title data children rest =>
    cases first
    exact ⟨_, mem_placed_entry.mpr (.inl rfl), rfl⟩

/-- The next sibling of a node has the node as its previous sibling. -/
theorem exists_next_of_mem_placed {outline : Outline} {node : Node} {place other : Nat}
    (member : (node, place) ∈ outline.placed start level parent previous)
    (next : node.next = some other) :
    ∃ neighbour, (neighbour, other) ∈ outline.placed start level parent previous ∧
      neighbour.previous = some place := by
  induction outline generalizing start level parent previous with
  | done => cases member
  | entry title data children rest childrenHypothesis restHypothesis =>
    rcases mem_placed_entry.mp member with here | inChildren | inRest
    · cases here
      obtain ⟨neighbour, found, before⟩ := exists_first next
      exact ⟨neighbour, mem_placed_entry.mpr (.inr (.inr found)), before⟩
    · obtain ⟨neighbour, found, before⟩ := childrenHypothesis inChildren
      exact ⟨neighbour, mem_placed_entry.mpr (.inr (.inl found)), before⟩
    · obtain ⟨neighbour, found, before⟩ := restHypothesis inRest
      exact ⟨neighbour, mem_placed_entry.mpr (.inr (.inr found)), before⟩

/-- A node with a previous sibling is the next sibling of that one. -/
theorem exists_previous_of_mem_placed {outline : Outline} {node : Node} {place before : Nat}
    (member : (node, place) ∈ outline.placed start level parent previous)
    (behind : node.previous = some before) :
    (outline.first? start = some place ∧ previous = some before) ∨
      ∃ neighbour, (neighbour, before) ∈ outline.placed start level parent previous ∧
        neighbour.next = some place := by
  induction outline generalizing start level parent previous with
  | done => cases member
  | entry title data children rest childrenHypothesis restHypothesis =>
    rcases mem_placed_entry.mp member with here | inChildren | inRest
    · cases here
      exact Or.inl ⟨rfl, behind⟩
    · rcases childrenHypothesis inChildren with ⟨_, none⟩ | ⟨neighbour, found, next⟩
      · cases none
      · exact Or.inr ⟨neighbour, mem_placed_entry.mpr (.inr (.inl found)), next⟩
    · rcases restHypothesis inRest with ⟨first, same⟩ | ⟨neighbour, found, next⟩
      · cases same
        exact Or.inr ⟨_, mem_placed_entry.mpr (.inl rfl), first⟩
      · exact Or.inr ⟨neighbour, mem_placed_entry.mpr (.inr (.inr found)), next⟩

/-! ### Reading a layout -/

/-- The document has the nodes of an outline, laid out from `start` on, at their places. -/
def LaidOut (document : Document) (start : Nat) (level : Int) (parent previous : Option Nat)
    (outline : Outline) : Prop :=
  ∀ pair ∈ outline.placed start level parent previous, document.node? pair.2 = some pair.1

variable {document : Document} {outline : Outline}

/-- The first record, those below it and those after it are laid out one behind the other. -/
theorem laidOut_entry {title data : String} {children rest : Outline} :
    LaidOut document start level parent previous (entry title data children rest) ↔
      document.node? start = some ⟨title, data, level, parent, previous,
        rest.first? (start + 1 + children.size), children.first? (start + 1)⟩ ∧
      LaidOut document (start + 1) (level + 1) (some start) none children ∧
      LaidOut document (start + 1 + children.size) level parent (some start) rest := by
  rw [LaidOut, placed_entry, List.forall_mem_cons, List.forall_mem_append]
  rfl

theorem LaidOut.shows (laidOut : LaidOut document start level parent previous outline) :
    document.Shows level parent previous (outline.first? start) outline := by
  induction outline generalizing start level parent previous with
  | done => exact .done
  | entry title data children rest childrenHypothesis restHypothesis =>
    obtain ⟨here, inChildren, inRest⟩ := laidOut_entry.mp laidOut
    exact .entry here rfl rfl rfl (childrenHypothesis inChildren) (restHypothesis inRest)

/-- The nodes of an outline are a tree, in which each place occurs once. -/
theorem LaidOut.exists_unfolds (laidOut : LaidOut document start level parent previous outline) :
    ∃ tree, document.Unfolds (outline.first? start) tree ∧
      tree.places = List.range' start outline.size := by
  induction outline generalizing start level parent previous with
  | done => exact ⟨.absent, .absent rfl, rfl⟩
  | entry title data children rest childrenHypothesis restHypothesis =>
    obtain ⟨here, inChildren, inRest⟩ := laidOut_entry.mp laidOut
    obtain ⟨below, child, placesBelow⟩ := childrenHypothesis inChildren
    obtain ⟨after, next, placesAfter⟩ := restHypothesis inRest
    have found := Document.follow_eq_some_iff.mpr ⟨rfl, here⟩
    refine ⟨.node start _ below after, .node found child next, ?_⟩
    rw [NodeTree.places, placesBelow, placesAfter, size, Nat.add_assoc 1, Nat.add_comm 1,
      List.range'_succ, ← List.range'_append_1]

/-- Below each node stands an outline of its own, and after each node a tree. -/
theorem LaidOut.exists_shows_child
    (laidOut : LaidOut document start level parent previous outline) {node : Node} {place : Nat}
    (member : (node, place) ∈ outline.placed start level parent previous) :
    (∃ children, document.Shows (node.level + 1) (some place) none node.child children) ∧
      ∃ tree, document.Unfolds node.next tree ∧ tree.places.Nodup := by
  induction outline generalizing start level parent previous with
  | done => cases member
  | entry title data children rest childrenHypothesis restHypothesis =>
    obtain ⟨_, inChildren, inRest⟩ := laidOut_entry.mp laidOut
    rcases mem_placed_entry.mp member with here | memberChildren | memberRest
    · cases here
      obtain ⟨after, next, places⟩ := inRest.exists_unfolds
      exact ⟨⟨children, inChildren.shows⟩, after, next, places ▸ List.nodup_range' ..⟩
    · exact childrenHypothesis inChildren memberChildren
    · exact restHypothesis inRest memberRest

end Placed

end Outline

/-! ### The document of an outline -/

namespace Document

variable {document : Document} {outline : Outline} {level : Int}

/-- A link that leads nowhere is none at all. -/
theorem Shows.eq_none {parent previous link : Option Nat}
    (shows : document.Shows level parent previous link outline)
    (nowhere : document.follow link = none) : link = none := by
  cases shows with
  | done => rfl
  | entry found => cases (follow_eq_some_iff.mpr ⟨rfl, found⟩).symm.trans nowhere

/-- A chain of siblings that shows an outline comes to an end. Its first node has the previous
sibling asked for, and its last node has no next one. -/
theorem Shows.exists_siblings {parent previous link : Option Nat}
    (shows : document.Shows level parent previous link outline) :
    ∃ nodes, document.Siblings link nodes ∧
      (∀ entry ∈ nodes.head?, entry.2.previous = previous) ∧
      ∀ entry ∈ nodes.getLast?, entry.2.next = none := by
  induction shows with
  | done =>
    refine ⟨[], .nil rfl, fun entry member => ?_, fun entry member => ?_⟩
    · cases member
    · cases member
  | @entry _ _ _ place node _ _ found _ _ behind _ next _ nextHypothesis =>
    obtain ⟨nodes, siblings, _, ends⟩ := nextHypothesis
    refine ⟨(place, node) :: nodes, .cons (follow_eq_some_iff.mpr ⟨rfl, found⟩) siblings,
      fun entry member => ?first, fun entry member => ?last⟩
    case first =>
      cases member
      exact behind
    case last =>
      cases nodes with
      | nil =>
        cases member
        cases siblings with
        | nil nowhere => exact next.eq_none nowhere
      | cons following nodes => exact ends entry member

theorem node?_ofOutline {place : Nat} {node : Node} :
    (ofOutline outline level).node? place = some node ↔
      (node, place) ∈ outline.placed 0 level none none := by
  rw [Outline.placed, List.mk_mem_zipIdx_iff_getElem?, node?, ofOutline, List.getElem?_toArray]

theorem laidOut_ofOutline (outline : Outline) (level : Int) :
    Outline.LaidOut (ofOutline outline level) 0 level none none outline :=
  fun _ => node?_ofOutline.mpr

theorem mirrors_ofOutline (outline : Outline) (level : Int) :
    (ofOutline outline level).Mirrors level (outline.first? 0) outline := by
  have laidOut := laidOut_ofOutline outline level
  have shows := laidOut.shows
  obtain ⟨tree, unfolds, places⟩ := laidOut.exists_unfolds
  refine ⟨shows, shows.unique, fun here there => ?next, fun starts => ?chain, ?tree,
    fun inside => ?reached, size_ofOutline outline level⟩
  case next =>
    rw [node?_ofOutline] at here there
    constructor
    · intro next
      obtain ⟨found, member, behind⟩ := Outline.exists_next_of_mem_placed here next
      rw [← node?_ofOutline] at member there
      cases there.symm.trans member
      exact behind
    · intro behind
      rcases Outline.exists_previous_of_mem_placed there behind with ⟨_, none⟩ | previous
      · cases none
      · obtain ⟨found, member, next⟩ := previous
        rw [← node?_ofOutline] at member here
        cases here.symm.trans member
        exact next
  case chain =>
    rcases starts with rfl | ⟨place, node, here, rfl⟩
    · exact shows.exists_siblings
    · obtain ⟨⟨children, child⟩, _⟩ := laidOut.exists_shows_child (node?_ofOutline.mp here)
      exact child.exists_siblings
  case tree => exact isTree_iff.mpr ⟨tree, unfolds, places ▸ List.nodup_range' ..⟩
  case reached =>
    rw [size_ofOutline] at inside
    have member := List.mem_range'_1.mpr ⟨Nat.zero_le _, by rwa [Nat.zero_add]⟩
    rw [← places, NodeTree.mem_places_iff] at member
    obtain ⟨chain, found⟩ := member
    exact ⟨chain, (reach_eq_placeAt unfolds chain).trans found⟩

/-- What follows after any node of an outline is a tree. -/
theorem exists_unfolds_afterHeader (outline : Outline) (level : Int) (root : Option Nat) :
    ∃ tree, (ofOutline outline level).Unfolds ((ofOutline outline level).afterHeader root) tree ∧
      tree.places.Nodup := by
  cases header : (ofOutline outline level).follow root with
  | none =>
    rw [afterHeader, header]
    exact ⟨.absent, .absent rfl, List.nodup_nil⟩
  | some entry =>
    rw [afterHeader, header]
    have member := node?_ofOutline.mp (follow_eq_some_iff.mp header).2
    exact ((laidOut_ofOutline outline level).exists_shows_child member).2

/-- Records are built into a document that mirrors their outline: read back along first children and
next siblings it gives the records with their titles, data and nesting, with levels, parents and
previous siblings to match, and each record has a node of its own. So no verification that starts
at any of the nodes, or at none, reports a node as reached twice. -/
theorem mirrors_buildOutline {records : List Value} {outline : Outline}
    (declares : Outline.Declares records outline) (level : Int) :
    let built := empty.buildOutline outline level none
    Outline.ofForm (.list records) = .ok outline ∧ built.1.Mirrors level built.2 outline ∧
      ∀ options catalog schema root filePath,
        (verify options catalog schema built.1 root filePath).byCode .cyclicLink = [] := by
  intro built
  have same : built = (ofOutline outline level, outline.first? 0) :=
    buildOutline_empty outline level
  rw [same]
  refine ⟨?_, mirrors_ofOutline outline level, fun options catalog schema root filePath => ?_⟩
  · rw [Outline.ofForm]
    exact Outline.ofRecords_of_declares declares
  · obtain ⟨tree, unfolds, nodup⟩ := exists_unfolds_afterHeader outline level root
    exact byCode_cyclicLink_of_unfolds options catalog schema unfolds nodup filePath

/-- The header of a game and, after it, the game with one entry of a menu below it. -/
def menu : Outline :=
  .entry "GHDR" "Version 1.0" .done
    (.entry "My Game" "" (.entry "Main Menu" "bg.png[10,20,300,200]" .done .done) .done)

/-- The menu as it is declared. -/
def menuRecords : List Value :=
  [.list [.text "GHDR", .text "Version 1.0"],
    .list [.text "My Game", .text "",
      .list [.list [.text "Main Menu", .text "bg.png[10,20,300,200]", .list []]]]]

theorem mirrors_buildOutline_menu :
    let built := empty.buildOutline menu 0 none
    Outline.Declares menuRecords menu ∧
      Outline.ofForm (.list menuRecords) = .ok menu ∧ built.1.Mirrors 0 built.2 menu ∧
      ∀ options catalog schema root filePath,
        (verify options catalog schema built.1 root filePath).byCode .cyclicLink = [] := by
  have declares : Outline.Declares menuRecords menu :=
    .pair (.triple (.triple .done .done) .done)
  exact ⟨declares, mirrors_buildOutline declares 0⟩

end Document

end TreeSchema
