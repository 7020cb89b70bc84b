/-
This file says where the nodes of a document stand under a schema, without reference to the
order in which a walk visits them: the first position is that after the header, and a node
that is bound in a position puts its first child and its next sibling into positions of
their own. The walk visits positions only, as every visit hands on what its slot is to the
slots that it opens. Where the nodes conform it visits all of them, and as no node is counted
twice, a node then stands in one position only.
-/
import Mathlib.Data.List.Pairwise
import TreeSchema.Proofs.Accounts
import TreeSchema.Proofs.Conformance

namespace TreeSchema

/-! ### Positions -/

namespace Schema

/-- The positions that the links and the schema determine: the first slot, and the slots of the
first child and of the next sibling of a node that is bound in a position. -/
inductive Position (schema : Schema) (document : Document) (first : Slot) : Slot → Prop where
  | first : Position schema document first first
  | child {slot : Slot} {place : Nat} {node : Node} {definition : Definition}
      (position : Position schema document first slot)
      (found : document.follow slot.link = some (place, node))
      (binds : schema.Binds slot.candidates node definition) :
      Position schema document first (slot.childSlot definition node)
  | next {slot : Slot} {place : Nat} {node : Node} {definition : Definition}
      (position : Position schema document first slot)
      (found : document.follow slot.link = some (place, node))
      (binds : schema.Binds slot.candidates node definition) :
      Position schema document first (slot.nextSlot definition node)

/-- The node at the place stands in the slot, where the definition is bound to it. -/
structure Stands (schema : Schema) (document : Document) (root : Option Nat) (place : Nat)
    (node : Node) (slot : Slot) (definition : Definition) : Prop where
  position : schema.Position document
    (Verification.firstSlot schema (document.afterHeader root)) slot
  found : document.follow slot.link = some (place, node)
  binds : schema.Binds slot.candidates node definition

/-- Where nothing is wrong in a visit and its link leads to a node, the visit counts this node. -/
theorem visit_eq_of_conforms {schema : Schema} {document : Document} {visit : Visit} {place : Nat}
    {node : Node} (meets : (schema.walk document none).Meets visit)
    (conforms : visit.finding.conforms = true)
    (found : document.follow visit.slot.link = some (place, node)) :
    visit = ⟨visit.slot, (schema.walk document none).nodeFinding visit.slot place node⟩ := by
  cases meets with
  | empty nowhere => cases found.symm.trans nowhere
  | repeated => cases conforms
  | overLimit _ limited => cases limited
  | counted other =>
    cases found.symm.trans other
    rfl

/-- Then the slots that it opens are those of the definition that is bound. -/
theorem opened_of_binds {schema : Schema} {document : Document} {visit : Visit} {place : Nat}
    {node : Node} {definition : Definition}
    (meets : (schema.walk document none).Meets visit) (conforms : visit.finding.conforms = true)
    (found : document.follow visit.slot.link = some (place, node))
    (binds : schema.Binds visit.slot.candidates node definition) :
    visit.opened = [visit.slot.childSlot definition node, visit.slot.nextSlot definition node] := by
  obtain ⟨rule, bound, rfl⟩ := boundRule_iff.mpr binds
  rw [visit_eq_of_conforms meets conforms found]
  exact Walk.opened_of_some bound place

end Schema

/-! ### Positions are visited -/

namespace Verification

variable {trace : Bool} {schema : Schema} {document : Document} {root : Option Nat}

theorem position_of_mem_visits {options : Options} {visit : Visit}
    (member : visit ∈ visits options schema document root) :
    schema.Position document (firstSlot schema (document.afterHeader root)) visit.slot := by
  refine Walk.forall_slot ?_ ?_ visit member
  · exact List.forall_mem_singleton.mpr .first
  · intro other among position slot opened
    have meets : (schema.walk document options.limit).Meets other := Walk.meets_of_mem among
    obtain ⟨place, node, rejected, rule, _, found, bound, either⟩ :=
      meets.exists_of_mem_opened opened
    have binds := Schema.boundRule_iff.mp ⟨rule, bound, rfl⟩
    rcases either with rfl | rfl
    · exact position.child found binds
    · exact position.next found binds

/-- Where all visits conform, every position is visited. -/
theorem exists_visit_of_position {slot : Slot}
    (conform : Visit.allConform (visits ⟨trace, none⟩ schema document root) = true)
    (position : schema.Position document (firstSlot schema (document.afterHeader root)) slot) :
    ∃ visit ∈ visits ⟨trace, none⟩ schema document root, visit.slot = slot := by
  have visited {slot : Slot} :
      (∃ visit ∈ visits ⟨trace, none⟩ schema document root, visit.slot = slot) ↔
        slot ∈ [firstSlot schema (document.afterHeader root)] ++
          (visits ⟨trace, none⟩ schema document root).flatMap Visit.opened := by
    rw [← List.mem_map]
    exact (Walk.slots_perm rfl [] _).mem_iff
  have opens {slot opened : Slot} {place : Nat} {node : Node} {definition : Definition}
      (found : document.follow slot.link = some (place, node))
      (binds : schema.Binds slot.candidates node definition)
      (either : opened = slot.childSlot definition node ∨ opened = slot.nextSlot definition node)
      (earlier : ∃ visit ∈ visits ⟨trace, none⟩ schema document root, visit.slot = slot) :
      ∃ visit ∈ visits ⟨trace, none⟩ schema document root, visit.slot = opened := by
    obtain ⟨visit, member, rfl⟩ := earlier
    have meets := meets_of_mem_visits trace schema document root member
    have conforms := List.all_eq_true.mp conform visit member
    have slots := Schema.opened_of_binds meets conforms found binds
    refine visited.mpr (List.mem_append_right _ (List.mem_flatMap.mpr ⟨visit, member, ?_⟩))
    rw [slots, List.mem_cons, List.mem_singleton]
    exact either
  induction position with
  | first => exact visited.mpr (List.mem_append_left _ List.mem_cons_self)
  | child _ found binds inductionHypothesis =>
    exact opens found binds (Or.inl rfl) inductionHypothesis
  | next _ found binds inductionHypothesis =>
    exact opens found binds (Or.inr rfl) inductionHypothesis

/-! ### One position for each node -/

/-- No two visits count the same node. -/
theorem visit_eq_of_counted? {visit other : Visit} {place : Nat}
    (member : visit ∈ visits ⟨trace, none⟩ schema document root)
    (otherMember : other ∈ visits ⟨trace, none⟩ schema document root)
    (counted : visit.finding.counted? = some place)
    (otherCounted : other.finding.counted? = some place) : visit = other := by
  have nodup : (Visit.countedPlaces (visits ⟨trace, none⟩ schema document root)).Nodup :=
    (Walk.nodup_countedPlaces [] _).1
  let apart (first second : Visit) : Prop :=
    ∀ one, first.finding.counted? = some one → ∀ two, second.finding.counted? = some two → one ≠ two
  have symmetric : Std.Symm apart :=
    ⟨fun _ _ apart one counted two otherCounted => (apart two otherCounted one counted).symm⟩
  have pairwise : (visits ⟨trace, none⟩ schema document root).Pairwise apart :=
    List.pairwise_filterMap.mp nodup
  by_contra different
  exact pairwise.forall member otherMember different place counted place otherCounted rfl

/-- A node that conforms stands in one slot only. -/
theorem slot_eq_of_stands {slot other : Slot} {place : Nat} {node otherNode : Node}
    {definition otherDefinition : Definition}
    (conform : Visit.allConform (visits ⟨trace, none⟩ schema document root) = true)
    (stands : schema.Stands document root place node slot definition)
    (otherStands : schema.Stands document root place otherNode other otherDefinition) :
    other = slot := by
  have counted {slot : Slot} {node : Node} {definition : Definition}
      (stands : schema.Stands document root place node slot definition) :
      ∃ visit ∈ visits ⟨trace, none⟩ schema document root, visit.slot = slot ∧
        visit.finding.counted? = some place := by
    obtain ⟨visit, member, rfl⟩ := exists_visit_of_position conform stands.position
    refine ⟨visit, member, rfl, ?_⟩
    have meets := meets_of_mem_visits trace schema document root member
    have conforms := List.all_eq_true.mp conform visit member
    rw [Schema.visit_eq_of_conforms meets conforms stands.found]
    exact Walk.counted?_nodeFinding ..
  obtain ⟨visit, member, rfl, isCounted⟩ := counted stands
  obtain ⟨otherVisit, otherMember, rfl, otherCounted⟩ := counted otherStands
  rw [visit_eq_of_counted? member otherMember isCounted otherCounted]

end Verification

end TreeSchema
