/-
This file draws from the consistency of a schema what a verification relies on. A
schema carries the fact that no fault was found in its parts, so the templates of its
definitions can be read, and every name in a relation, like every name that may stand
after the header, is the name of a definition. A list of candidates all of whose names
are defined is said to resolve; the candidates that a walk meets are of this kind.
-/
import TreeSchema.Schema

namespace TreeSchema

namespace Schema

/-! ### Single checks -/

theorem templateFault?_eq_none_iff {definition : Definition} {part : Part} {template : String} :
    templateFault? definition part template = none ↔
      ∃ read, Template.read template = .ok read := by
  unfold templateFault?
  cases Template.read template with
  | error fault => simp
  | ok read => simp

theorem referenceFault?_named_eq_none_iff {names : List String} {definition : Definition}
    {relation : Relation} {name : String} :
    referenceFault? names definition relation (.named name) = none ↔ name ∈ names := by
  unfold referenceFault?
  split <;> simp_all

/-- A consistent schema has no fault in any of its definitions. -/
theorem definitionFault?_eq_none (schema : Schema) {definition : Definition}
    (member : definition ∈ schema.definitions) :
    definitionFault? (schema.definitions.map Definition.name) definition = none := by
  have consistent := schema.consistent
  rw [cause?, Option.or_eq_none_iff] at consistent
  obtain ⟨_, consistent⟩ := consistent
  split at consistent
  · cases consistent
  · split at consistent
    · cases consistent
    · exact List.findSome?_eq_none_iff.mp consistent definition member

theorem partFaults_eq_none (schema : Schema) {definition : Definition}
    (member : definition ∈ schema.definitions) :
    (templateFault? definition .title definition.title = none ∧
      templateFault? definition .data definition.data = none) ∧
    (definition.references.findSome? fun (relation, reference) =>
      referenceFault? (schema.definitions.map Definition.name) definition relation reference) =
        none := by
  have faultless := definitionFault?_eq_none schema member
  unfold definitionFault? at faultless
  split at faultless
  · cases faultless
  · split at faultless
    · cases faultless
    · rw [Option.or_eq_none_iff, Option.or_eq_none_iff] at faultless
      exact faultless

/-! ### Templates -/

/-- The title template of a definition can be read. -/
theorem exists_title (schema : Schema) {definition : Definition}
    (member : definition ∈ schema.definitions) :
    ∃ title, Template.read definition.title = .ok title :=
  templateFault?_eq_none_iff.mp (partFaults_eq_none schema member).1.1

/-- The data template of a definition can be read. -/
theorem exists_data (schema : Schema) {definition : Definition}
    (member : definition ∈ schema.definitions) :
    ∃ data, Template.read definition.data = .ok data :=
  templateFault?_eq_none_iff.mp (partFaults_eq_none schema member).1.2

/-! ### Names -/

theorem mem_of_find? {schema : Schema} {name : String} {definition : Definition}
    (found : schema.find? name = some definition) :
    definition ∈ schema.definitions ∧ definition.name = name := by
  refine ⟨List.mem_of_find?_eq_some found, ?_⟩
  simpa using List.find?_some found

theorem exists_find?_of_mem {schema : Schema} {name : String}
    (member : name ∈ schema.definitions.map Definition.name) :
    ∃ definition, schema.find? name = some definition := by
  obtain ⟨definition, inSchema, named⟩ := List.mem_map.mp member
  refine Option.isSome_iff_exists.mp (List.find?_isSome.mpr ⟨definition, inSchema, ?_⟩)
  rw [named, beq_self_eq_true]

theorem isName_of_mem (schema : Schema) {definition : Definition}
    (member : definition ∈ schema.definitions) : isName definition.name = true := by
  have faultless := definitionFault?_eq_none schema member
  unfold definitionFault? at faultless
  split at faultless
  · cases faultless
  next named => simpa using named

/-- Every name among the candidates is the name of a definition. -/
def Resolves (schema : Schema) (candidates : List Reference) : Prop :=
  ∀ name, .named name ∈ candidates → ∃ definition, schema.find? name = some definition

theorem Resolves.tail {schema : Schema} {candidate : Reference} {candidates : List Reference}
    (resolves : schema.Resolves (candidate :: candidates)) : schema.Resolves candidates :=
  fun name member => resolves name (List.mem_cons_of_mem _ member)

/-- The neighbours of a definition resolve, in each relation. -/
theorem resolves_neighbours (schema : Schema) {definition : Definition}
    (member : definition ∈ schema.definitions) (relation : Relation) :
    schema.Resolves (definition.neighbours relation).references := by
  intro name listed
  have faultless := (partFaults_eq_none schema member).2
  rw [List.findSome?_eq_none_iff] at faultless
  have resolved := faultless _ (Definition.mem_references.mpr listed)
  exact exists_find?_of_mem (referenceFault?_named_eq_none_iff.mp resolved)

/-- The candidates for the node after the header resolve. -/
theorem resolves_headCandidates (schema : Schema) :
    schema.Resolves (schema.headCandidates.map Reference.named) := by
  intro name listed
  obtain ⟨head, member, same⟩ := List.mem_map.mp listed
  cases same
  obtain ⟨definition, inHeads, named⟩ := List.mem_map.mp member
  refine exists_find?_of_mem (List.mem_map.mpr ⟨definition, ?_, named⟩)
  exact (List.mem_filter.mp inHeads).1

end Schema

end TreeSchema
