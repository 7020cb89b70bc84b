/-
This file says which names the definitions of accepted schemas have. A name should be an
identifier from its first character to its last one. The check of names tolerates a line break
behind an identifier, though, and no other check looks at the characters of a name, so a
definition with such a name is accepted wherever one with the identifier is: in a schema that
is built from its parts or declared, and in a catalog that is declared or loaded from a file.
The accepted names are therefore the identifiers and the identifiers with a line break behind
them, and the first are told from the second by how they end.
-/
import TreeSchema.Proofs.CatalogFile
import TreeSchema.Proofs.Construction

namespace TreeSchema

namespace Schema

/-! ### Identifiers -/

/-- A letter or an underscore, then letters, digits, underscores, dots and dashes, and nothing
else. -/
def IsIdentifier (name : String) : Prop :=
  ∃ first rest, name.toList = first :: rest ∧ (first.isAlpha = true ∨ first = '_') ∧
    ∀ character ∈ rest, isNameCharacter character = true

/-- An identifier with one line break behind it. -/
def IsBrokenIdentifier (name : String) : Prop :=
  ∃ identifier, IsIdentifier identifier ∧ name = identifier ++ "\n"

theorem isName_iff_identifier {name : String} :
    isName name = true ↔ IsIdentifier name ∨ IsBrokenIdentifier name := by
  rw [isName_iff]
  constructor
  · intro named
    obtain ⟨first, rest, ending, characters, start, each, either⟩ := named
    rcases either with rfl | rfl
    · rw [List.append_nil] at characters
      exact Or.inl ⟨first, rest, characters, start, each⟩
    · refine Or.inr ⟨String.ofList (first :: rest), ⟨first, rest, by simp, start, each⟩, ?_⟩
      rw [← String.toList_inj, characters]
      simp
  · intro either
    rcases either with ⟨first, rest, characters, start, each⟩ |
      ⟨identifier, ⟨first, rest, characters, start, each⟩, rfl⟩
    · exact ⟨first, rest, [], by rw [characters, List.append_nil], start, each, Or.inl rfl⟩
    · refine ⟨first, rest, ['\n'], ?_, start, each, Or.inr rfl⟩
      rw [String.toList_append, characters]
      rfl

/-- No identifier holds a line break. -/
theorem IsIdentifier.lineBreak_not_mem {name : String} (identifier : IsIdentifier name) :
    '\n' ∉ name.toList := by
  obtain ⟨first, rest, characters, start, each⟩ := identifier
  rw [characters, List.mem_cons, not_or]
  constructor
  · rintro rfl
    exact absurd start (by decide)
  · intro member
    exact absurd (each _ member) (by decide)

theorem IsBrokenIdentifier.not_isIdentifier {name : String} (broken : IsBrokenIdentifier name) :
    ¬ IsIdentifier name := by
  obtain ⟨identifier, _, rfl⟩ := broken
  refine fun whole => whole.lineBreak_not_mem ?_
  rw [String.toList_append]
  exact List.mem_append_right _ (by decide)

/-! ### Names of definitions -/

/-- A definition of the schema has the name. -/
def Declares (schema : Schema) (name : String) : Prop :=
  ∃ definition ∈ schema.definitions, definition.name = name

theorem isName_of_declares {schema : Schema} {name : String} (declares : schema.Declares name) :
    isName name = true := by
  obtain ⟨definition, member, rfl⟩ := declares
  exact schema.isName_of_mem member

/-- A definition with nothing but a name. -/
def bare (name : String) : Definition :=
  .build name "" "" 0 fun _ => .nothing

theorem fits_bare {name : String} (named : isName name = true) :
    Fits [bare name] (bare name) := by
  have onlyAbsent (relation : Relation) :
      ((bare name).neighbours relation).references = [.absent] := by
    rw [bare, Definition.neighbours_build]
    rfl
  have read : Template.read "" = .ok .done := by cbv
  refine ⟨isName_iff.mp named, Int.le_refl _, ⟨.done, read⟩, ⟨.done, read⟩,
    fun relation listed => ?_, fun relation other listed => ?_⟩
  · rw [onlyAbsent] at listed
    cases List.mem_singleton.mp listed
  · rw [onlyAbsent] at listed
    cases List.mem_singleton.mp listed

/-- A schema with one bare definition. -/
def sole (name : String) (named : isName name = true) : Schema where
  label := "Version 1.0"
  ordinal := 1
  fileExtension := ".dat"
  definitions := [bare name]
  consistent := cause?_eq_none_iff_consistent.mpr
    ⟨by decide, ⟨'d', ['a', 't'], rfl⟩, List.pairwise_singleton _ _,
      List.forall_mem_singleton.mpr (fits_bare named)⟩

theorem declares_sole {name : String} (named : isName name = true) :
    (sole name named).Declares name :=
  ⟨bare name, List.mem_cons_self, rfl⟩

end Schema

/-- A catalog with one schema, which has one bare definition. -/
def Catalog.sole (name : String) (named : Schema.isName name = true) : Catalog where
  tag := "DAT"
  schemas := [Schema.sole name named]
  consistent := cause?_eq_none_iff.mpr ⟨by decide, List.pairwise_singleton _ _⟩

theorem Catalog.mem_byOrdinal_sole {name : String} (named : Schema.isName name = true) :
    Schema.sole name named ∈ (Catalog.sole name named).byOrdinal.schemas :=
  (Catalog.sole name named).ordered_perm.mem_iff.mpr List.mem_cons_self

namespace Schema

/-! ### Accepted names -/

/-- A name is accepted if it is an identifier, or an identifier with one line break behind it, and
only then, be it the name of a definition in a schema that is built from its parts, in one that is
declared, in a declared catalog, or in a catalog file. No name is of both kinds. -/
theorem declares_iff_identifier (name : String) :
    ((∃ label ordinal fileExtension definitions schema,
        ofDefinitions label ordinal fileExtension definitions = .ok schema ∧
          schema.Declares name) ↔ IsIdentifier name ∨ IsBrokenIdentifier name) ∧
    ((∃ value schema, ofForm value = .ok schema ∧ schema.Declares name) ↔
      IsIdentifier name ∨ IsBrokenIdentifier name) ∧
    ((∃ value catalog, Catalog.ofForm value = .ok catalog ∧
        ∃ schema ∈ catalog.schemas, schema.Declares name) ↔
      IsIdentifier name ∨ IsBrokenIdentifier name) ∧
    ((∃ fileName contents catalog, Catalog.ofFile fileName contents = .ok catalog ∧
        ∃ schema ∈ catalog.schemas, schema.Declares name) ↔
      IsIdentifier name ∨ IsBrokenIdentifier name) ∧
    ¬ (IsIdentifier name ∧ IsBrokenIdentifier name) := by
  simp only [← isName_iff_identifier]
  refine ⟨⟨?_, fun named => ?built⟩, ⟨?_, fun named => ?declared⟩, ⟨?_, fun named => ?catalog⟩,
    ⟨?_, fun named => ?file⟩, fun both => both.2.not_isIdentifier both.1⟩
  case built =>
    exact ⟨_, _, _, _, sole name named, (sole name named).ofDefinitions_self,
      declares_sole named⟩
  case declared =>
    exact ⟨_, sole name named, (sole name named).ofForm_form, declares_sole named⟩
  case catalog =>
    exact ⟨_, _, (Catalog.sole name named).ofForm_form, sole name named,
      Catalog.mem_byOrdinal_sole named, declares_sole named⟩
  case file =>
    refine ⟨"catalog.json", some (Catalog.sole name named).fileText.toUTF8,
      (Catalog.sole name named).byOrdinal, ?_, sole name named,
      Catalog.mem_byOrdinal_sole named, declares_sole named⟩
    rw [Catalog.ofFile, Catalog.fromUTF8?_toUTF8]
    exact (Catalog.sole name named).ofText_fileText "catalog.json"
  · rintro ⟨_, _, _, _, schema, _, declares⟩
    exact isName_of_declares declares
  · rintro ⟨_, schema, _, declares⟩
    exact isName_of_declares declares
  · rintro ⟨_, _, _, schema, _, declares⟩
    exact isName_of_declares declares
  · rintro ⟨_, _, _, _, schema, _, declares⟩
    exact isName_of_declares declares

/-- A declaration of a schema whose one definition has a line break behind its name. -/
def brokenForm : Value :=
  .record [("version", .text "Version 1.0"), ("ordinal", .integer 1), ("extension", .text ".dat"),
    ("nodes", .list [.record [("name", .text "head\n")]])]

/-- A schema is accepted although a name in it is no identifier. -/
theorem ofForm_brokenForm :
    ∃ schema, ofForm brokenForm = .ok schema ∧ schema.Declares "head\n" ∧
      ¬ IsIdentifier "head\n" := by
  have built := (sole "head\n" (by decide)).ofDefinitions_self
  refine ⟨_, congrArg (Except.mapError FormFault.inconsistent) built, declares_sole _, ?_⟩
  exact fun identifier => identifier.lineBreak_not_mem (by decide)

end Schema

end TreeSchema
