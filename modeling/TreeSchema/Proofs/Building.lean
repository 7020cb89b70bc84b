/-
This file proves that the outline that is built by making nodes and linking them is laid out in
one piece. The nodes of the records come to stand in the order of the layout as they are made,
so what is left is the links. Linking goes along the places of the records: each node is given
its parent and the node before it, and the node before it is given its next sibling, which
until then it lacks. A node thus gets its last link one step after the others, and the
induction is on the records that come after a node that still waits for its next sibling.
-/
import TreeSchema.Document.Building

namespace TreeSchema

/-! ### Nodes that are not linked yet -/

namespace Outline

/-- The nodes of an outline, laid out from `start` on, the nodes of the records themselves not being
linked to a parent or to each other. -/
def unlinked (start : Nat) (level : Int) : Outline → List Node
  | done => []
  | entry title data children rest =>
    ⟨title, data, level, none, none, none, children.first? (start + 1)⟩ ::
      (layOut (start + 1) (level + 1) (some start) none children ++
        unlinked (start + 1 + children.size) level rest)

/-- The places of the records, without those below them. -/
def recordPlaces (start : Nat) : Outline → List Nat
  | done => []
  | entry _ _ children rest => start :: recordPlaces (start + 1 + children.size) rest

theorem head?_recordPlaces (start : Nat) (outline : Outline) :
    (outline.recordPlaces start).head? = outline.first? start := by
  cases outline <;> rfl

end Outline

namespace Document

/-- The document of the nodes given. -/
def ofNodes (nodes : List Node) : Document :=
  ⟨nodes.toArray⟩

theorem size_ofNodes (nodes : List Node) : (ofNodes nodes).size = nodes.length := rfl

theorem push_ofNodes (nodes : List Node) (node : Node) :
    (ofNodes nodes).push node = ofNodes (nodes ++ [node]) := by
  simp [push, ofNodes]

theorem length_around (front middle : List Node) (node : Node) :
    (front ++ node :: middle).length = front.length + 1 + middle.length := by
  rw [List.length_append, List.length_cons]
  omega

/-- The node behind the nodes in front is changed. -/
theorem modify_ofNodes (front : List Node) (node : Node) (back : List Node)
    (change : Node → Node) :
    (ofNodes (front ++ node :: back)).modify front.length change =
      ofNodes (front ++ change node :: back) := by
  have changed : (front ++ node :: back).modify front.length change =
      front ++ change node :: back := by
    induction front with
    | nil => rfl
    | cons first front inductionHypothesis =>
      rw [List.cons_append, List.length_cons, List.modify_succ_cons, inductionHypothesis,
        List.cons_append]
  rw [modify, ofNodes, List.modify_toArray, changed, ofNodes]

/-! ### Linking -/

section Linking

variable (parent : Option Nat) (front middle back : List Node) (node made : Node)

/-- A node is linked as the next sibling of the node before it. -/
theorem linkAfter_next (places : List Nat) {start : Nat}
    (placed : start = front.length + 1 + middle.length) :
    linkAfter parent (some front.length) (start :: places)
        (ofNodes (front ++ node :: (middle ++ made :: back))) =
      linkAfter parent (some start) places
        (ofNodes (front ++ { node with next := some start } ::
          (middle ++ { made with parent, previous := some front.length, next := none } ::
            back))) := by
  have behind : (front ++ node :: middle).length = start := by rw [placed, length_around]
  have linked := modify_ofNodes (front ++ node :: middle) made back
    fun node => { node with parent, previous := some front.length, next := none }
  simp only [behind, List.append_assoc, List.cons_append] at linked
  rw [linkAfter, linked]
  exact congrArg _ (modify_ofNodes ..)

/-- The records after a node are linked, and the node gets its next sibling. -/
theorem linkAfter_unlinked (unfollowed : node.next = none) (level : Int) (outline : Outline)
    {start : Nat} (placed : start = front.length + 1 + middle.length) :
    linkAfter parent (some front.length) (outline.recordPlaces start)
        (ofNodes (front ++ node :: (middle ++ outline.unlinked start level))) =
      ofNodes (front ++ { node with next := outline.first? start } ::
        (middle ++ outline.layOut start level parent (some front.length))) := by
  induction outline generalizing front middle node start with
  | done =>
    have same : { node with next := none } = node := by rw [← unfollowed]
    rw [Outline.first?, same]
    rfl
  | entry title data children rest _ restHypothesis =>
    let followed := { node with next := some start }
    let below := children.layOut (start + 1) (level + 1) (some start) none
    have behind : (front ++ followed :: middle).length = start := by rw [placed, length_around]
    have later : start + 1 + children.size =
        (front ++ followed :: middle).length + 1 + below.length := by
      rw [behind, Outline.length_layOut]
    have records := restHypothesis (front ++ followed :: middle) below
      ⟨title, data, level, parent, some front.length, none, children.first? (start + 1)⟩ rfl later
    rw [behind, List.append_assoc, List.append_assoc] at records
    exact (linkAfter_next parent front middle _ node _ _ placed).trans records

/-- The records of an outline are linked to each other, and to the parent if there is one. -/
theorem linkAfter_records (level : Int) (outline : Outline) :
    linkAfter parent none (outline.recordPlaces front.length)
        (ofNodes (front ++ outline.unlinked front.length level)) =
      ofNodes (front ++ outline.layOut front.length level parent none) := by
  cases outline with
  | done => rfl
  | entry title data children rest =>
    let below := children.layOut (front.length + 1) (level + 1) (some front.length) none
    have later : front.length + 1 + children.size = front.length + 1 + below.length := by
      rw [Outline.length_layOut]
    have records := linkAfter_unlinked parent front below
      ⟨title, data, level, parent, none, none, children.first? (front.length + 1)⟩ rfl level rest
      later
    exact (congrArg _ (modify_ofNodes ..)).trans records

end Linking

/-! ### Building -/

/-- The records of an outline that is built below the last node are laid out there. -/
theorem linkSiblings_below (front : List Node) (title data : String) (level : Int)
    (children : Outline) :
    (ofNodes (front ++ .alone title data level ::
        children.unlinked (front.length + 1) (level + 1))).linkSiblings
          (children.recordPlaces (front.length + 1)) (some front.length) =
      ofNodes (front ++
        ⟨title, data, level, none, none, none, children.first? (front.length + 1)⟩ ::
          children.layOut (front.length + 1) (level + 1) (some front.length) none) := by
  have records := linkAfter_records (some front.length) (front ++ [.alone title data level])
    (level + 1) children
  simp only [List.length_append, List.length_singleton, List.append_assoc, List.cons_append,
    List.nil_append] at records
  rw [linkSiblings, records, Outline.head?_recordPlaces]
  exact modify_ofNodes ..

theorem addRecords_ofNodes (front : List Node) (level : Int) (outline : Outline) :
    (ofNodes front).addRecords level outline =
      (ofNodes (front ++ outline.unlinked front.length level),
        outline.recordPlaces front.length) := by
  induction outline generalizing front level with
  | done => rw [addRecords, Outline.unlinked, List.append_nil, Outline.recordPlaces]
  | entry title data children rest childrenHypothesis restHypothesis =>
    let node : Node := ⟨title, data, level, none, none, none, children.first? (front.length + 1)⟩
    let below := children.layOut (front.length + 1) (level + 1) (some front.length) none
    have built := childrenHypothesis (front ++ [.alone title data level]) (level + 1)
    simp only [List.length_append, List.length_singleton, List.append_assoc, List.cons_append,
      List.nil_append] at built
    -- building no children and linking them changes nothing either
    have attached : (if children = .done then ofNodes (front ++ [.alone title data level])
        else ofNodes (front ++ node :: below)) = ofNodes (front ++ node :: below) := by
      split
      next childless =>
        subst childless
        rfl
      · rfl
    have later : (front ++ node :: below).length = front.length + 1 + children.size := by
      rw [length_around, Outline.length_layOut]
    have after := restHypothesis (front ++ node :: below) level
    rw [later, List.append_assoc, List.cons_append] at after
    rw [addRecords, push_ofNodes, built, size_ofNodes]
    dsimp only
    rw [linkSiblings_below, attached, after]
    rfl

/-- An outline that is built by making nodes and linking them is the outline laid out after the
nodes that were there before. -/
theorem buildOutline_eq (document : Document) (outline : Outline) (level : Int)
    (parent : Option Nat) :
    document.buildOutline outline level parent =
      (document.addOutline outline level parent, outline.first? document.size) := by
  have nodes : document = ofNodes document.nodes.toList := by rw [ofNodes, Array.toArray_toList]
  have size : document.size = document.nodes.toList.length := rfl
  have records := linkAfter_records parent document.nodes.toList level outline
  have built := addRecords_ofNodes document.nodes.toList level outline
  rw [← nodes, ← size] at built
  rw [← size] at records
  have extended :
      ofNodes (document.nodes.toList ++ outline.layOut document.size level parent none) =
        ⟨document.nodes ++ (outline.layOut document.size level parent none).toArray⟩ := by
    simp [ofNodes]
  rw [buildOutline, built]
  dsimp only
  rw [Outline.head?_recordPlaces]
  cases parent with
  | none => rw [linkSiblings, records, addOutline, extended]
  | some place => rw [linkSiblings, records, addOutline, extended, Outline.head?_recordPlaces]

theorem buildOutline_empty (outline : Outline) (level : Int) :
    empty.buildOutline outline level none = (ofOutline outline level, outline.first? 0) := by
  rw [buildOutline_eq, addOutline, ofOutline]
  simp [empty, size]

end Document

end TreeSchema
