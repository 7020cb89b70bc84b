/-
This file proves that the declared form is a normal form. Reading is lenient, so many
values declare the same definition; the form that is written of it is one of them, and
reading that form gives the definition back.

A reference could stand in the way. The token of the header's place and the name of a
definition are both written as texts, so a reference to a definition of the name `@head`
would come back as the header's place. Such a reference is never read and never built,
and in a schema it would lead nowhere: a definition without one is called declarable.

Schemas are given back as they are. A catalog comes back with its schemas by ascending
ordinal, so it may differ in their order, but not under any label, and not in its form.
-/
import TreeSchema.Catalog.Form
import TreeSchema.Definition.Build
import TreeSchema.Proofs.Consistency
import TreeSchema.Proofs.Steps
import TreeSchema.Proofs.Uniqueness

namespace TreeSchema

/-! ### References that can be declared -/

namespace Reference

theorem ofToken_ne_named_headToken (token : Value) : ofToken token ≠ .named headToken := by
  unfold ofToken
  split
  · exact Reference.noConfusion
  · split
    · exact Reference.noConfusion
    next different => exact fun same => different (Reference.named.inj same)

theorem ofToken_token {reference : Reference} (free : reference ≠ .named headToken) :
    ofToken reference.token = reference := by
  cases reference with
  | absent => exact ofToken_token_absent
  | head => exact ofToken_token_head
  | named name => exact ofToken_token_named fun same => free (congrArg named same)

theorem Given.meant_ne_named_headToken (given : Given) : given.meant ≠ .named headToken := by
  cases given with
  | token value => exact ofToken_ne_named_headToken value
  | absent => exact Reference.noConfusion
  | head => exact Reference.noConfusion

/-- A relation that is written as a list of tokens lists the references they were written of. -/
theorem ofRelation?_tokens {references : List Reference} (free : .named headToken ∉ references) :
    ofRelation? (.list (references.map token)) = some references := by
  show some ((references.map token).map ofToken) = some references
  have back : references.map (ofToken ∘ token) = references.map id :=
    List.map_congr_left fun reference member => ofToken_token (ne_of_mem_of_not_mem member free)
  rw [List.map_map, back, List.map_id]

theorem not_mem_of_ofRelation? {value : Value} {references : List Reference}
    (listed : ofRelation? value = some references) : .named headToken ∉ references := by
  unfold ofRelation? at listed
  split at listed
  · cases listed
    exact List.not_mem_nil
  · cases listed
    exact fun member => ofToken_ne_named_headToken _ (List.mem_singleton.mp member).symm
  · obtain ⟨members, _, rfl⟩ := Option.map_eq_some_iff.mp listed
    intro member
    obtain ⟨token, _, same⟩ := List.mem_map.mp member
    exact ofToken_ne_named_headToken token same

end Reference

/-- No reference names a definition like the header's place. -/
def Neighbours.Declarable (neighbours : Neighbours) : Prop :=
  .named Reference.headToken ∉ neighbours.references

theorem Neighbours.declarable_ofList {references : List Reference}
    (free : .named Reference.headToken ∉ references) : (ofList references).Declarable := by
  cases references with
  | nil => exact fun member => Reference.noConfusion (List.mem_singleton.mp member)
  | cons reference rest => exact free

theorem Relation.Given.declarable_meant (given : Relation.Given) : given.meant.Declarable := by
  cases given with
  | nothing => exact Neighbours.declarable_ofList List.not_mem_nil
  | single reference =>
    refine Neighbours.declarable_ofList fun member => ?_
    exact reference.meant_ne_named_headToken (List.mem_singleton.mp member).symm
  | several references =>
    refine Neighbours.declarable_ofList fun member => ?_
    obtain ⟨reference, _, same⟩ := List.mem_map.mp member
    exact reference.meant_ne_named_headToken same

/-- A definition whose references can all be declared. -/
def Definition.Declarable (definition : Definition) : Prop :=
  ∀ relation, (definition.neighbours relation).Declarable

theorem Definition.declarable_build (name title data : String) (level : Int)
    (given : Relation → Relation.Given) : (build name title data level given).Declarable := by
  intro relation
  rw [neighbours_build]
  exact (given relation).declarable_meant

/-! ### Taking entries -/

namespace Value.Mapping

/-- No entry stands under a text key. -/
def Lacks (key : String) (mapping : Mapping) : Prop :=
  ∀ entry ∈ mapping, entry.1.sameKey (text key) = false

@[simp]
theorem lacks_nil (key : String) : Lacks key [] :=
  List.forall_mem_nil _

@[simp]
theorem lacks_cons_text {key other : String} {value : Value} {mapping : Mapping} :
    Lacks key ((text other, value) :: mapping) ↔ other ≠ key ∧ Lacks key mapping := by
  refine List.forall_mem_cons.trans (and_congr_left' ?_)
  show (other == key) = false ↔ other ≠ key
  exact beq_eq_false_iff_ne

theorem Lacks.filter_eq {key : String} {mapping : Mapping} (lacks : Lacks key mapping) :
    (mapping.filter fun entry => !entry.1.sameKey (text key)) = mapping :=
  List.filter_eq_self.mpr fun entry member => by rw [lacks entry member, Bool.not_false]

theorem take_of_lacks {key : String} {mapping : Mapping} (lacks : Lacks key mapping) :
    mapping.take key = (none, mapping) := by
  have notFound : mapping.find? (fun entry => entry.1.sameKey (text key)) = none :=
    List.find?_eq_none.mpr fun entry member => by simp [lacks entry member]
  rw [take, notFound, lacks.filter_eq, Option.map_none]

theorem take_cons_self {key : String} {mapping : Mapping} (lacks : Lacks key mapping)
    (value : Value) : take key ((text key, value) :: mapping) = (some value, mapping) := by
  have here : (text key).sameKey (text key) = true := beq_self_eq_true key
  simp [take, here, lacks.filter_eq]

end Value.Mapping

/-! ### Definitions -/

namespace Definition

open Value.Mapping (Lacks lacks_cons_text take_of_lacks take_cons_self)

variable {mapping rest : Value.Mapping} {relation : Relation} {neighbours : Neighbours}

theorem takeTemplate_cons {key longKey : String} (template : String) (lacks : Lacks key mapping)
    (lacksLong : Lacks longKey mapping) (different : key ≠ longKey) :
    takeTemplate key longKey ((.text key, .text template) :: mapping) = (template, mapping) := by
  have given : templateText (some (.text template)) = template := by
    show (if template != "" then template else "") = template
    by_cases empty : template = ""
    · rw [empty]
      rfl
    · exact if_pos (bne_iff_ne.mpr empty)
  have lacksHere : Lacks longKey ((.text key, .text template) :: mapping) :=
    lacks_cons_text.mpr ⟨different, lacksLong⟩
  have long := take_of_lacks lacksHere
  have short := take_cons_self lacks (.text template)
  simp only [takeTemplate, long, short, Option.some_or, given]

theorem takeLevel_cons (level : Int) (lacks : Lacks "level" mapping) :
    takeLevel ((.text "level", .integer level) :: mapping) = .ok (level, mapping) := by
  rw [takeLevel, take_cons_self lacks]
  rfl

theorem takeRelation_cons (declarable : neighbours.Declarable)
    (lacks : Lacks relation.key mapping) :
    takeRelation relation
        ((.text relation.key, .list (neighbours.references.map Reference.token)) :: mapping) =
      .ok (neighbours, mapping) := by
  have read := Reference.ofRelation?_tokens declarable
  simp only [takeRelation, take_cons_self lacks, Option.getD_some, read,
    neighbours.ofList_references]

/-- The form of a declarable definition declares the definition. -/
theorem ofForm_form {definition : Definition} (declarable : definition.Declarable) :
    ofForm definition.form = .ok definition := by
  show ofMapping [(.text "name", .text definition.name), (.text "title", .text definition.title),
      (.text "data", .text definition.data), (.text "level", .integer definition.level),
      (.text Relation.parents.key, .list (definition.parents.references.map Reference.token)),
      (.text Relation.previousSiblings.key,
        .list (definition.previousSiblings.references.map Reference.token)),
      (.text Relation.nextSiblings.key,
        .list (definition.nextSiblings.references.map Reference.token)),
      (.text Relation.children.key, .list (definition.children.references.map Reference.token))] =
    .ok definition
  -- Entries are written in the order in which they are taken, so each is the first one left.
  rw [ofMapping, take_cons_self (by simp [Relation.key])]
  dsimp only
  rw [takeTemplate_cons _ (by simp [Relation.key]) (by simp [Relation.key]) (by simp)]
  dsimp only
  rw [takeTemplate_cons _ (by simp [Relation.key]) (by simp [Relation.key]) (by simp)]
  refine bind_eq_ok_iff.mpr ⟨definition.name, rfl, ?_⟩
  refine bind_eq_ok_iff.mpr ⟨_, takeLevel_cons _ (by simp [Relation.key]), ?_⟩
  refine bind_eq_ok_iff.mpr
    ⟨_, takeRelation_cons (declarable .parents) (by simp [Relation.key]), ?_⟩
  refine bind_eq_ok_iff.mpr
    ⟨_, takeRelation_cons (declarable .previousSiblings) (by simp [Relation.key]), ?_⟩
  refine bind_eq_ok_iff.mpr
    ⟨_, takeRelation_cons (declarable .nextSiblings) (by simp [Relation.key]), ?_⟩
  refine bind_eq_ok_iff.mpr
    ⟨_, takeRelation_cons (declarable .children) (by simp [Relation.key]), ?_⟩
  rfl

theorem declarable_of_takeRelation
    (taken : takeRelation relation mapping = .ok (neighbours, rest)) : neighbours.Declarable := by
  unfold takeRelation at taken
  dsimp only at taken
  split at taken
  next references listed =>
    cases taken
    exact Neighbours.declarable_ofList (Reference.not_mem_of_ofRelation? listed)
  · cases taken

theorem declarable_of_ofForm {value : Value} {definition : Definition}
    (read : ofForm value = .ok definition) : definition.Declarable := by
  unfold ofForm at read
  split at read
  · unfold ofMapping at read
    dsimp only at read
    split at read
    · simp only [bind_eq_ok_iff] at read
      obtain ⟨_, _, _, _, _, parents, _, previousSiblings, _, nextSiblings, _, children, _, _,
        same⟩ := read
      cases same
      intro relation
      cases relation with
      | parents => exact declarable_of_takeRelation parents
      | previousSiblings => exact declarable_of_takeRelation previousSiblings
      | nextSiblings => exact declarable_of_takeRelation nextSiblings
      | children => exact declarable_of_takeRelation children
    · cases read
  · cases read

end Definition

/-! ### Schemas -/

namespace Schema

variable (schema : Schema)

/-- The token of the header's place is no name, so no reference of a schema leads there by name. -/
theorem declarable_of_mem {definition : Definition} (member : definition ∈ schema.definitions) :
    definition.Declarable := by
  intro relation listed
  obtain ⟨named, found⟩ := schema.resolves_neighbours member relation _ listed
  obtain ⟨inSchema, name⟩ := mem_of_find? found
  have isName := schema.isName_of_mem inSchema
  rw [name] at isName
  exact absurd isName (by decide)

theorem ofDefinitions_self :
    ofDefinitions schema.label schema.ordinal schema.fileExtension schema.definitions =
      .ok schema := by
  unfold ofDefinitions
  split
  · rfl
  next cause fault =>
    rw [schema.consistent] at fault
    cases fault

/-- The form of a schema declares the schema. -/
theorem ofForm_form : ofForm schema.form = .ok schema := by
  have read : (schema.definitions.map Definition.form).mapM Definition.ofForm =
      .ok schema.definitions :=
    mapM_map_eq_ok fun definition member =>
      Definition.ofForm_form (schema.declarable_of_mem member)
  have definitions : definitionsOf (.list (schema.definitions.map Definition.form)) =
      .ok schema.definitions :=
    congrArg (Except.mapError FormFault.badDefinition) read
  refine bind_eq_ok_iff.mpr ⟨.text schema.label, rfl, ?_⟩
  refine bind_eq_ok_iff.mpr ⟨.integer schema.ordinal, rfl, ?_⟩
  refine bind_eq_ok_iff.mpr ⟨schema.ordinal, rfl, ?_⟩
  refine bind_eq_ok_iff.mpr ⟨.text schema.fileExtension, rfl, ?_⟩
  refine bind_eq_ok_iff.mpr ⟨schema.definitions, definitions, ?_⟩
  exact congrArg (Except.mapError FormFault.inconsistent) schema.ofDefinitions_self

end Schema

/-! ### Catalogs -/

namespace Catalog

variable (catalog : Catalog)

theorem ofSchemas_self : ofSchemas catalog.tag catalog.schemas = .ok catalog := by
  unfold ofSchemas
  split
  · rfl
  next cause fault =>
    rw [catalog.consistent] at fault
    cases fault

/-- The form of a catalog declares the catalog with its schemas by ascending ordinal. -/
theorem ofForm_form : ofForm catalog.form = .ok catalog.byOrdinal := by
  have read : (catalog.ordered.map Schema.form).mapM Schema.ofForm = .ok catalog.ordered :=
    mapM_map_eq_ok fun schema _ => schema.ofForm_form
  refine bind_eq_ok_iff.mpr ⟨catalog.ordered, ?_, ?_⟩
  · exact congrArg (Except.mapError FormFault.badSchema) read
  · exact congrArg (Except.mapError FormFault.inconsistent) catalog.byOrdinal.ofSchemas_self

theorem form_byOrdinal : catalog.byOrdinal.form = catalog.form := by
  rw [form, form, catalog.ordered_byOrdinal]
  rfl

end Catalog

/-! ### Forms are normal -/

/-- The form of a definition that was read from any value, or built from parts given directly,
declares that definition again, and the form of a schema that schema. The form of a catalog
declares a catalog with the same tag, the same schema under every label, and the same form. -/
theorem form_declares_again :
    (∀ value definition, Definition.ofForm value = .ok definition →
      Definition.ofForm definition.form = .ok definition) ∧
    (∀ name title data level given,
      Definition.ofForm (Definition.build name title data level given).form =
        .ok (Definition.build name title data level given)) ∧
    (∀ schema : Schema, Schema.ofForm schema.form = .ok schema) ∧
    ∀ catalog : Catalog, ∃ again, Catalog.ofForm catalog.form = .ok again ∧
      again.tag = catalog.tag ∧ (∀ label, again.find? label = catalog.find? label) ∧
      again.form = catalog.form := by
  refine ⟨fun value definition read => ?_, fun name title data level given => ?_,
    Schema.ofForm_form, fun catalog => ?_⟩
  · exact Definition.ofForm_form (Definition.declarable_of_ofForm read)
  · exact Definition.ofForm_form (Definition.declarable_build name title data level given)
  · exact ⟨catalog.byOrdinal, catalog.ofForm_form, rfl, catalog.find?_byOrdinal,
      catalog.form_byOrdinal⟩

/-- An entry declared with all the freedom there is: long keys, a null for a template and for a
relation, a truth value for the level, a single token and a number among the tokens. -/
def lenientEntry : Value :=
  .record [("name", .text "entry"), ("title_pattern", .text "<fileTitle>"), ("data", .null),
    ("data_pattern", .text "<fileTitle>"), ("level", .bool true), ("parents", .null),
    ("prev_siblings", .text "@head"),
    ("next_siblings", .list [.null, .integer 7, .text "@head"]), ("children", .list [])]

/-- The definition that is meant by the lenient entry. -/
def meantEntry : Definition :=
  .build "entry" "<fileTitle>" "" 1 fun
    | .parents => .nothing
    | .previousSiblings => .single .head
    | .nextSiblings => .several [.absent, .token (.text "7"), .head]
    | .children => .nothing

theorem form_declares_again_lenientEntry :
    Definition.ofForm lenientEntry = .ok meantEntry ∧
      Definition.ofForm meantEntry.form = .ok meantEntry := by
  have read : Definition.ofForm lenientEntry = .ok meantEntry := by rfl
  exact ⟨read, form_declares_again.1 lenientEntry meantEntry read⟩

end TreeSchema
