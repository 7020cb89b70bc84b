/-
This file reads a schema as a grammar of trees and compares that reading with the
walk. A typing gives every node of a tree the name of a definition that accepts it, in
such a way that the names of a node and of its first child, and of a node and of its
next sibling, stand in the relations of the schema. Any name of a list may be chosen;
nothing says which one is tried first. The walk, on the other hand, takes the first
candidate that accepts and never goes back. What it accepts has a typing. The converse
holds where no list of candidates leaves a choice: then the walk finds the typing, and
there is no other one.
-/
import TreeSchema.Catalog.BuiltIn
import TreeSchema.Proofs.Conformance
import TreeSchema.Proofs.Elements

namespace TreeSchema

namespace Schema

/-! ### Typings -/

/-- The naming is a typing of the tree, the name of whose first node is to be among the candidates:
each node is accepted by the definition of its name, the name of each first child is among the
children of the definition above it, the name of each next sibling is among the next siblings of
the definition before it, and where a node is missing absence is among these. -/
def Types (schema : Schema) (naming : Nat → String) : NodeTree → List Reference → Prop
  | .absent, candidates => .absent ∈ candidates
  | .node place content below after, candidates =>
    .named (naming place) ∈ candidates ∧ ∃ definition,
      schema.find? (naming place) = some definition ∧ definition.Accepts content ∧
      schema.Types naming below definition.children.references ∧
      schema.Types naming after definition.nextSiblings.references

/-- No node is accepted by the definitions of two names among the candidates. -/
def Separates (schema : Schema) (candidates : List Reference) : Prop :=
  ∀ node first second definition other, .named first ∈ candidates → .named second ∈ candidates →
    schema.find? first = some definition → schema.find? second = some other →
    definition.Accepts node → other.Accepts node → first = second

/-- None of the lists of candidates that a walk meets leaves a choice. -/
structure Unambiguous (schema : Schema) : Prop where
  heads : schema.Separates (schema.headCandidates.map Reference.named)
  children : ∀ definition ∈ schema.definitions, schema.Separates definition.children.references
  nextSiblings : ∀ definition ∈ schema.definitions,
    schema.Separates definition.nextSiblings.references

/-- A typing says nothing about places outside of the tree. -/
theorem types_congr {schema : Schema} {naming other : Nat → String} {tree : NodeTree}
    {candidates : List Reference} (agree : ∀ place ∈ tree.places, naming place = other place)
    (types : schema.Types naming tree candidates) : schema.Types other tree candidates := by
  induction tree generalizing candidates with
  | absent => exact types
  | node place content below after belowHypothesis afterHypothesis =>
    obtain ⟨listed, definition, found, accepts, typesBelow, typesAfter⟩ := types
    rw [agree place List.mem_cons_self] at listed found
    refine ⟨listed, definition, found, accepts, ?_, ?_⟩
    · exact belowHypothesis (fun inner member =>
        agree inner (List.mem_cons_of_mem _ (List.mem_append_left _ member))) typesBelow
    · exact afterHypothesis (fun inner member =>
        agree inner (List.mem_cons_of_mem _ (List.mem_append_right _ member))) typesAfter

/-! ### The walk finds a typing -/

/-- The definition that binds is named among the candidates, under its own name. -/
theorem named_of_binds {schema : Schema} {candidates : List Reference} {node : Node}
    {definition : Definition} (binds : schema.Binds candidates node definition) :
    .named definition.name ∈ candidates ∧ schema.find? definition.name = some definition ∧
      definition.Accepts node := by
  obtain ⟨before, name, after, rfl, found, accepts, _⟩ := binds
  rw [(mem_of_find? found).2]
  exact ⟨List.mem_append_right _ List.mem_cons_self, found, accepts⟩

/-- One naming for a node, for what is below it and for what is after it. -/
def joinNamings (place : Nat) (name : String) (below : NodeTree)
    (namingBelow namingAfter : Nat → String) (other : Nat) : String :=
  if other = place then name
  else if other ∈ below.places then namingBelow other
  else namingAfter other

/-- Namings of the parts of a tree that names no place twice make up a naming of the tree. -/
theorem types_joinNamings {schema : Schema} {candidates : List Reference} {place : Nat}
    {content : Node} {below after : NodeTree} {definition : Definition}
    {namingBelow namingAfter : Nat → String}
    (nodup : (NodeTree.node place content below after).places.Nodup)
    (binds : schema.Binds candidates content definition)
    (typesBelow : schema.Types namingBelow below definition.children.references)
    (typesAfter : schema.Types namingAfter after definition.nextSiblings.references) :
    schema.Types (joinNamings place definition.name below namingBelow namingAfter)
      (.node place content below after) candidates := by
  rw [NodeTree.places, List.nodup_cons, List.nodup_append, List.mem_append, not_or] at nodup
  obtain ⟨⟨notBelow, notAfter⟩, _, _, apart⟩ := nodup
  obtain ⟨listed, found, accepts⟩ := named_of_binds binds
  have here : joinNamings place definition.name below namingBelow namingAfter place =
      definition.name := if_pos rfl
  rw [Types, here]
  refine ⟨listed, definition, found, accepts, types_congr ?_ typesBelow, types_congr ?_ typesAfter⟩
  · intro other member
    have different : other ≠ place := fun same => notBelow (same ▸ member)
    rw [joinNamings, if_neg different, if_pos member]
  · intro other member
    have different : other ≠ place := fun same => notAfter (same ▸ member)
    have outside : other ∉ below.places := fun inBelow => apart other inBelow other member rfl
    rw [joinNamings, if_neg different, if_neg outside]

theorem exists_types_of_conforms {schema : Schema} {document : Document} {tree : NodeTree}
    {link : Option Nat} {candidates : List Reference} (unfolds : document.Unfolds link tree)
    (nodup : tree.places.Nodup) (conforms : schema.Conforms document link candidates) :
    ∃ naming, schema.Types naming tree candidates := by
  induction tree generalizing link candidates with
  | absent =>
    cases unfolds with
    | absent nowhere =>
      cases conforms with
      | absent _ allowed => exact ⟨fun _ => "", allowed⟩
      | node found =>
        rw [nowhere] at found
        cases found
  | node place content below after belowHypothesis afterHypothesis =>
    cases unfolds with
    | node found child next =>
      cases conforms with
      | absent nowhere =>
        rw [nowhere] at found
        cases found
      | node other binds conformsBelow conformsAfter =>
        rw [found, Option.some.injEq, Prod.mk.injEq] at other
        obtain ⟨_, rfl⟩ := other
        obtain ⟨namingBelow, typesBelow⟩ :=
          belowHypothesis child (NodeTree.nodup_below nodup) conformsBelow
        obtain ⟨namingAfter, typesAfter⟩ :=
          afterHypothesis next (NodeTree.nodup_after nodup) conformsAfter
        exact ⟨_, types_joinNamings nodup binds typesBelow typesAfter⟩

/-! ### Where there is no choice -/

theorem Separates.tail {schema : Schema} {candidate : Reference} {candidates : List Reference}
    (separates : schema.Separates (candidate :: candidates)) : schema.Separates candidates :=
  fun node first second definition other listed listedOther =>
    separates node first second definition other (List.mem_cons_of_mem _ listed)
      (List.mem_cons_of_mem _ listedOther)

/-- Without a choice, a candidate that accepts is the first one that accepts. -/
theorem binds_of_separates {schema : Schema} {candidates : List Reference} {node : Node}
    {name : String} {definition : Definition} (separates : schema.Separates candidates)
    (listed : .named name ∈ candidates) (found : schema.find? name = some definition)
    (accepts : definition.Accepts node) : schema.Binds candidates node definition := by
  induction candidates with
  | nil => cases listed
  | cons candidate candidates inductionHypothesis =>
    by_cases accepted : ∃ first other, candidate = .named first ∧
        schema.find? first = some other ∧ other.Accepts node
    · obtain ⟨first, other, rfl, foundFirst, acceptsFirst⟩ := accepted
      have same : first = name := separates node first name other definition List.mem_cons_self
        listed foundFirst found acceptsFirst accepts
      rw [same, found, Option.some.injEq] at foundFirst
      rw [same]
      exact (binds_cons_of_accepts found accepts).mpr rfl
    · have refuses : ∀ first other, candidate = .named first → schema.find? first = some other →
          ¬ other.Accepts node :=
        fun first other same foundFirst acceptsFirst =>
          accepted ⟨first, other, same, foundFirst, acceptsFirst⟩
      have later : .named name ∈ candidates := by
        rcases List.mem_cons.mp listed with same | later
        · exact absurd accepts (refuses name definition same.symm found)
        · exact later
      exact (binds_cons_of_refuses refuses).mpr (inductionHypothesis separates.tail later)

/-- Without a choice, what has a typing conforms. -/
theorem conforms_of_types {schema : Schema} (unambiguous : schema.Unambiguous)
    {document : Document} {naming : Nat → String} {tree : NodeTree} {link : Option Nat}
    {candidates : List Reference} (separates : schema.Separates candidates)
    (unfolds : document.Unfolds link tree) (types : schema.Types naming tree candidates) :
    schema.Conforms document link candidates := by
  induction tree generalizing link candidates with
  | absent =>
    cases unfolds with
    | absent nowhere => exact .absent nowhere types
  | node place content below after belowHypothesis afterHypothesis =>
    cases unfolds with
    | node followed child next =>
      obtain ⟨listed, definition, found, accepts, typesBelow, typesAfter⟩ := types
      have member : definition ∈ schema.definitions := (mem_of_find? found).1
      refine .node followed (binds_of_separates separates listed found accepts) ?_ ?_
      · exact belowHypothesis (unambiguous.children definition member) child typesBelow
      · exact afterHypothesis (unambiguous.nextSiblings definition member) next typesAfter

/-- Without a choice, two typings of a tree agree on all its nodes. -/
theorem types_unique {schema : Schema} (unambiguous : schema.Unambiguous)
    {naming other : Nat → String} {tree : NodeTree} {candidates : List Reference}
    (separates : schema.Separates candidates) (types : schema.Types naming tree candidates)
    (typesOther : schema.Types other tree candidates) :
    ∀ place ∈ tree.places, other place = naming place := by
  induction tree generalizing candidates with
  | absent => exact fun _ member => absurd member List.not_mem_nil
  | node here content below after belowHypothesis afterHypothesis =>
    obtain ⟨listed, definition, found, accepts, typesBelow, typesAfter⟩ := types
    obtain ⟨listedOther, definitionOther, foundOther, acceptsOther, otherBelow, otherAfter⟩ :=
      typesOther
    have same : other here = naming here := separates content _ _ _ _ listedOther listed
      foundOther found acceptsOther accepts
    rw [same, found, Option.some.injEq] at foundOther
    subst foundOther
    have member : definition ∈ schema.definitions := (mem_of_find? found).1
    rw [NodeTree.places, List.forall_mem_cons, List.forall_mem_append]
    refine ⟨same, ?_, ?_⟩
    · exact belowHypothesis (unambiguous.children definition member) typesBelow otherBelow
    · exact afterHypothesis (unambiguous.nextSiblings definition member) typesAfter otherAfter

end Schema

/-- A tree of nodes after the header that is found to conform has a typing. If the schema leaves no
choice, conversely, every tree with a typing is found to conform, and the typing is the only one. -/
theorem exists_typing_and_unique (trace : Bool) (catalog : Catalog) (schema : Schema)
    (document : Document) (root : Option Nat) (filePath : String) (tree : NodeTree)
    (unfolds : document.Unfolds (document.afterHeader root) tree) (nodup : tree.places.Nodup) :
    let report := verify ⟨trace, none⟩ catalog schema document root filePath
    let heads := schema.headCandidates.map Reference.named
    (report.nodesOk = true → ∃ naming, schema.Types naming tree heads) ∧
    (schema.Unambiguous → ∀ naming, schema.Types naming tree heads →
      report.nodesOk = true ∧
        ∀ other, schema.Types other tree heads →
          ∀ place ∈ tree.places, other place = naming place) := by
  intro report heads
  refine ⟨fun nodesOk => ?_, fun unambiguous naming types => ⟨?_, fun other typesOther => ?_⟩⟩
  · obtain ⟨_, _, _, conforms⟩ := Schema.allConform_visits_iff.mp nodesOk
    exact Schema.exists_types_of_conforms unfolds nodup conforms
  · exact Schema.allConform_visits_iff.mpr ⟨tree, unfolds, nodup,
      Schema.conforms_of_types unambiguous unambiguous.heads unfolds types⟩
  · exact Schema.types_unique unambiguous unambiguous.heads types typesOther

/-! ### Sections within sections -/

/-- A node without data that holds sections and numbered nodes, in any order, and may be empty. -/
def sectionDefinition : Definition where
  name := "section"
  title := "<title>"
  data := ""
  level := 0
  parents := .ofList []
  previousSiblings := .ofList [.head]
  nextSiblings := .ofList [.named "section", .named "entry", .absent]
  children := .ofList [.named "section", .named "entry", .absent]

/-- A node with a number, and with nothing below it. -/
def entryDefinition : Definition where
  name := "entry"
  title := "<title>"
  data := "<#>"
  level := 0
  parents := .ofList []
  previousSiblings := .ofList []
  nextSiblings := .ofList [.named "section", .named "entry", .absent]
  children := .ofList []

/-- Sections to any depth. -/
def sections : Schema where
  label := "sections"
  ordinal := 1
  fileExtension := ".sections"
  definitions := [sectionDefinition, entryDefinition]
  consistent := by decide +kernel

theorem sectionDefinition_accepts_iff {node : Node} :
    sectionDefinition.Accepts node ↔ node.title ≠ "" ∧ node.data = "" := by
  have title : Template.read sectionDefinition.title = .ok (.field "title".toList .done) := by
    decide +kernel
  have data : Template.read sectionDefinition.data = .ok .done := by decide +kernel
  rw [Definition.accepts_iff_of_read title data, Template.matches_lastField_iff,
    Template.matches_done_iff, String.toList_eq_nil_iff, ne_eq, String.toList_eq_nil_iff]

theorem entryDefinition_accepts_iff {node : Node} :
    entryDefinition.Accepts node ↔ node.title ≠ "" ∧ Template.IsInteger node.data.toList := by
  have title : Template.read entryDefinition.title = .ok (.field "title".toList .done) := by
    decide +kernel
  have data : Template.read entryDefinition.data = .ok (.integer .done) := by decide +kernel
  rw [Definition.accepts_iff_of_read title data, Template.matches_lastField_iff,
    Template.matches_lastInteger_iff, ne_eq, String.toList_eq_nil_iff]

/-- A section has no data, and a numbered node has some. -/
theorem not_accepts_both {node : Node} (accepts : sectionDefinition.Accepts node) :
    ¬ entryDefinition.Accepts node := by
  intro other
  have number := (entryDefinition_accepts_iff.mp other).2
  rw [(sectionDefinition_accepts_iff.mp accepts).2] at number
  exact number.ne_nil rfl

theorem sections_separates (candidates : List Reference) : sections.Separates candidates := by
  intro node first second definition other _ _ found foundOther accepts acceptsOther
  obtain ⟨member, named⟩ := Schema.mem_of_find? found
  obtain ⟨memberOther, namedOther⟩ := Schema.mem_of_find? foundOther
  have either : definition = sectionDefinition ∨ definition = entryDefinition := by
    simpa [sections] using member
  have eitherOther : other = sectionDefinition ∨ other = entryDefinition := by
    simpa [sections] using memberOther
  rw [← named, ← namedOther]
  rcases either with rfl | rfl <;> rcases eitherOther with rfl | rfl
  · rfl
  · exact absurd acceptsOther (not_accepts_both accepts)
  · exact absurd accepts (not_accepts_both acceptsOther)
  · rfl

theorem sections_unambiguous : sections.Unambiguous where
  heads := sections_separates _
  children := fun _ _ => sections_separates _
  nextSiblings := fun _ _ => sections_separates _

/-- A section with an empty section and a numbered node below it. -/
theorem exists_typing_and_unique_sections :
    let outer : Node := { Node.alone "outer" "" 0 with child := some 2 }
    let inner : Node := { Node.alone "inner" "" 1 with next := some 3 }
    let entry : Node := Node.alone "entry" "-7" 1
    let header : Node := { Node.alone "SECTIONS" "1" 0 with next := some 1 }
    let document : Document := ⟨#[header, outer, inner, entry]⟩
    let tree : NodeTree :=
      .node 1 outer (.node 2 inner .absent (.node 3 entry .absent .absent)) .absent
    let naming (place : Nat) : String := if place = 3 then "entry" else "section"
    let report := verify ⟨false, none⟩ Catalog.ghdr sections document (some 0) "notes.sections"
    let heads := sections.headCandidates.map Reference.named
    document.Unfolds (document.afterHeader (some 0)) tree ∧ tree.places.Nodup ∧
      sections.Unambiguous ∧ sections.Types naming tree heads ∧ report.nodesOk = true ∧
      ∀ other, sections.Types other tree heads →
        ∀ place ∈ tree.places, other place = naming place := by
  intro outer inner entry header document tree naming report heads
  have unfolds : document.Unfolds (document.afterHeader (some 0)) tree :=
    .node rfl (.node rfl (.absent rfl) (.node rfl (.absent rfl) (.absent rfl))) (.absent rfl)
  have nodup : tree.places.Nodup := by decide
  have accepts : entryDefinition.Accepts entry :=
    entryDefinition_accepts_iff.mpr ⟨by decide, ['7'], by decide,
      List.forall_mem_singleton.mpr (by decide), Or.inr (by decide)⟩
  have allowed : ∀ candidates, .absent ∈ candidates → sections.Types naming .absent candidates :=
    fun _ absent => absent
  have types : sections.Types naming tree heads := by
    refine ⟨by decide +kernel, sectionDefinition, rfl,
      sectionDefinition_accepts_iff.mpr ⟨by decide, rfl⟩, ?_, allowed _ (by decide)⟩
    refine ⟨by decide, sectionDefinition, rfl, sectionDefinition_accepts_iff.mpr ⟨by decide, rfl⟩,
      allowed _ (by decide), ?_⟩
    exact ⟨by decide, entryDefinition, rfl, accepts, allowed _ (by decide), allowed _ (by decide)⟩
  obtain ⟨_, conversely⟩ := exists_typing_and_unique false Catalog.ghdr sections document (some 0)
    "notes.sections" tree unfolds nodup
  exact ⟨unfolds, nodup, sections_unambiguous, types,
    conversely sections_unambiguous naming types⟩

end TreeSchema
