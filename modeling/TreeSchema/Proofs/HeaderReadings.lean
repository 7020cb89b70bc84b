/-
This file compares the two readings of a header's version. The check of a header asks whether
the data spells the version of the schema: the label as it stands or, blanks around it aside,
the text of the ordinal. A resolver says what the data declares instead, and it takes more:
blanks around a label, and a number in every spelling, with a sign, leading zeros, underscores
or the digits of any script. Where it finds the very schema that the data does not spell, the
check fails, and the entry calls the version unrecognised, which in all other cases means that
nothing was found. So the two readings agree as long as data that declares a schema spells it.
What has too many digits is neither read nor written, so it neither declares nor spells.
-/
import TreeSchema.Proofs.BuiltIn
import TreeSchema.Proofs.Direct
import TreeSchema.Proofs.Uniqueness

namespace TreeSchema

/-! ### What data declares -/

/-- Blanks around it aside, the data is the label of the schema, or it is no label and spells a
number in some way, which is the ordinal of the schema. -/
def Catalog.Declares (catalog : Catalog) (data : String) (schema : Schema) : Prop :=
  Text.strip data = schema.label ∨
    (∀ other ∈ catalog.schemas, other.label ≠ Text.strip data) ∧
      Whole.ofText? (Text.strip data) = some schema.ordinal

theorem Catalog.declared?_eq_some_iff {catalog : Catalog} {data : String} {schema : Schema} :
    catalog.declared? data = some schema ↔
      schema ∈ catalog.schemas ∧ catalog.Declares data schema := by
  unfold declared? Declares
  dsimp only
  cases labelled : catalog.find? (Text.strip data) with
  | some found =>
    obtain ⟨member, label⟩ := find?_eq_some_iff.mp labelled
    rw [Option.some.injEq]
    constructor
    · rintro rfl
      exact ⟨member, Or.inl label.symm⟩
    · rintro ⟨inCatalog, same | ⟨noLabel, _⟩⟩
      · rw [find?_eq_some_iff.mpr ⟨inCatalog, same.symm⟩] at labelled
        exact (Option.some.inj labelled).symm
      · exact absurd label (noLabel found member)
  | none =>
    have noLabel : ∀ other ∈ catalog.schemas, other.label ≠ Text.strip data := by
      intro other member same
      rw [find?_eq_some_iff.mpr ⟨member, same⟩] at labelled
      cases labelled
    simp only [Option.bind_eq_some_iff, findOrdinal?_eq_some_iff]
    constructor
    · rintro ⟨ordinal, read, member, rfl⟩
      exact ⟨member, Or.inr ⟨noLabel, read⟩⟩
    · rintro ⟨member, same | ⟨_, read⟩⟩
      · exact absurd same.symm (noLabel schema member)
      · exact ⟨schema.ordinal, read, member, rfl⟩

/-! ### What the check says -/

namespace Header

/-- The data is the label of the schema or, blanks around it aside, the text of its ordinal. -/
def Spells (data : String) (schema : Schema) : Prop :=
  data = schema.label ∨ Whole.text? schema.ordinal = some (Text.strip data)

/-- The entry that calls the version in the data unrecognised. -/
def unrecognised (schema : Schema) (place : Nat) (data : String) : Diagnostic :=
  mismatch (some place)
    ("unrecognised version " ++ Text.quoted data ++ ", expected " ++ Text.quoted schema.label)

theorem namesSchema_eq_true_iff {schema : Schema} {data : String} :
    namesSchema schema data = true ↔ Spells data schema := by
  rw [namesSchema, Bool.or_eq_true, beq_iff_eq, beq_iff_eq, Spells]

/-- An entry whose message starts otherwise does not call the version unrecognised. -/
theorem unrecognised_ne {schema : Schema} {place : Nat} {data message : String}
    {other : Option Nat} (starts : message.toList.head? = some 'f') :
    unrecognised schema place data ≠ mismatch other message := by
  intro same
  have messages := congrArg (fun entry => entry.message.toList.head?) same
  simp [unrecognised, mismatch, starts] at messages

theorem unrecognised_not_mem_titleEntries {catalog : Catalog} {schema : Schema} {place : Nat}
    {node : Node} {data : String} :
    unrecognised schema place data ∉ titleEntries catalog place node := by
  unfold titleEntries
  split
  · exact List.not_mem_nil
  · rw [List.mem_singleton]
    exact unrecognised_ne (by simp)

/-- The version in the data is called unrecognised unless the data declares another schema. -/
theorem unrecognised_eq_iff {catalog : Catalog} {schema : Schema}
    (member : schema ∈ catalog.schemas) (place : Nat) (data : String) :
    unrecognised schema place data =
        mismatch (some place) (versionMessage catalog schema data) ↔
      catalog.declared? data = none ∨ catalog.declared? data = some schema := by
  unfold versionMessage
  dsimp only
  cases declared : catalog.declared? data with
  | none => exact iff_of_true rfl (Or.inl rfl)
  | some other =>
    have otherMember := (Catalog.declared?_eq_some_iff.mp declared).1
    by_cases ordinal : other.ordinal = schema.ordinal
    · have same := Catalog.findOrdinal?_eq_some_iff.mpr ⟨otherMember, ordinal⟩
      rw [Catalog.findOrdinal?_eq_some_iff.mpr ⟨member, rfl⟩] at same
      simp only [if_pos ordinal]
      exact iff_of_true rfl (Or.inr same.symm)
    · simp only [if_neg ordinal]
      refine iff_of_false (unrecognised_ne (by simp)) fun either => ?_
      rcases either with none | same
      · cases none
      · cases same
        exact ordinal rfl

/-- The check calls the version unrecognised exactly if the data does not spell it, and declares no
schema or the very schema that it is checked for. -/
theorem unrecognised_mem_check_iff {trace : Bool} {catalog : Catalog} {schema : Schema}
    (member : schema ∈ catalog.schemas) (place : Nat) (node : Node) :
    unrecognised schema place node.data ∈ (check trace catalog schema (some (place, node))).2 ↔
      ¬ Spells node.data schema ∧
        (catalog.declared? node.data = none ∨ catalog.declared? node.data = some schema) := by
  rw [← namesSchema_eq_true_iff, check]
  dsimp only
  split
  next spelled =>
    refine iff_of_false (fun logged => ?_) fun both => both.1 spelled
    rcases List.mem_append.mp logged with title | confirmation
    · exact unrecognised_not_mem_titleEntries title
    · split at confirmation
      · cases List.mem_singleton.mp confirmation
      · cases confirmation
  next unspelled =>
    rw [and_iff_right unspelled, List.mem_append, List.mem_singleton,
      unrecognised_eq_iff member place node.data]
    exact or_iff_right unrecognised_not_mem_titleEntries

/-- Nothing breaks the check of data off that spells the version. -/
theorem obstacle?_of_spells {catalog : Catalog} {schema : Schema} {place : Nat} {node : Node}
    (spells : Spells node.data schema) : obstacle? catalog schema (some (place, node)) = none := by
  have named := namesSchema_eq_true_iff.mpr spells
  rw [obstacle?]
  by_cases label : node.data = schema.label
  · rw [if_pos label]
  · have short := (Whole.text?_eq_some_iff.mp (spells.resolve_left label)).1
    rw [if_neg label, if_neg (not_not_intro short), if_pos named]

theorem check_eq_true_iff_spells {trace : Bool} {catalog : Catalog} {schema : Schema}
    {place : Nat} {node : Node} (title : node.title = catalog.tag) :
    (check trace catalog schema (some (place, node))).1 = true ↔ Spells node.data schema := by
  rw [check_eq_true_iff]
  constructor
  · rintro ⟨_, same, _, spells⟩
    cases same
    exact spells
  · exact fun spells => ⟨_, rfl, title, spells⟩

end Header

/-- For a schema of the catalog and a header with the right title, the two readings of the version
agree, in that the check succeeds where the data resolves to the schema and calls the version
unrecognised only where it resolves to none, exactly if the data does not declare the schema without
spelling its version. -/
theorem Direct.readingsAgree_iff {catalog : Catalog} {schema : Schema}
    (member : schema ∈ catalog.schemas) (trace : Bool) (place : Nat) {node : Node}
    (title : node.title = catalog.tag) :
    ((declared catalog node.data = .ok (some schema) →
        ∃ log, checkHeader catalog schema (some (place, node)) (.empty trace) = .ok (true, log)) ∧
      (∀ ok log, checkHeader catalog schema (some (place, node)) (.empty trace) = .ok (ok, log) →
        Header.unrecognised schema place node.data ∈ log.entries →
        declared catalog node.data = .ok none)) ↔
      (catalog.Declares node.data schema → Header.Spells node.data schema) := by
  have resolves : declared catalog node.data = .ok (some schema) ↔
      catalog.Declares node.data schema := by
    rw [declared_eq_ok, Except.ok.injEq, Catalog.declared?_eq_some_iff, and_iff_right member]
  have succeeds : (Header.check trace catalog schema (some (place, node))).1 = true ↔
      Header.Spells node.data schema := Header.check_eq_true_iff_spells title
  have checks : checkHeader catalog schema (some (place, node)) (.empty trace) =
      settle (Header.obstacle? catalog schema (some (place, node)))
        ((Header.check trace catalog schema (some (place, node))).1,
          (Log.empty trace).extend (Header.check trace catalog schema (some (place, node))).2) :=
    checkHeader_eq catalog schema _ _
  rw [resolves, checks, declared_eq_ok, Except.ok.injEq]
  constructor
  · intro agree declares
    obtain ⟨log, checked⟩ := agree.1 declares
    exact succeeds.mp (congrArg Prod.fst (settle_eq_ok_iff.mp checked).2)
  · intro spelled
    refine ⟨fun declares => ?_, fun ok log checked logged => ?_⟩
    · have spells := spelled declares
      rw [Header.obstacle?_of_spells spells, settle, succeeds.mpr spells]
      exact ⟨_, rfl⟩
    · cases (settle_eq_ok_iff.mp checked).2
      rw [Log.entries_extend_empty, Header.unrecognised_mem_check_iff member] at logged
      rcases logged.2 with none | same
      · exact none
      · have declares := (Catalog.declared?_eq_some_iff.mp same).2
        exact absurd (spelled declares) logged.1

namespace Direct

/-- A header of the built-in format that spells its version by the ordinal, with a blank before
it. -/
theorem readingsAgree_iff_ordinal :
    let node := Node.alone "GHDR" " 1" 0
    (Catalog.ghdrVersion1 ∈ Catalog.ghdr.schemas ∧ node.title = Catalog.ghdr.tag) ∧
      Header.Spells node.data Catalog.ghdrVersion1 ∧
      (declared Catalog.ghdr node.data = .ok (some Catalog.ghdrVersion1) →
        ∃ log, checkHeader Catalog.ghdr Catalog.ghdrVersion1 (some (0, node)) (.empty true) =
          .ok (true, log)) ∧
      (∀ ok log, checkHeader Catalog.ghdr Catalog.ghdrVersion1 (some (0, node)) (.empty true) =
          .ok (ok, log) →
        Header.unrecognised Catalog.ghdrVersion1 0 node.data ∈ log.entries →
        declared Catalog.ghdr node.data = .ok none) := by
  intro node
  have member : Catalog.ghdrVersion1 ∈ Catalog.ghdr.schemas := List.mem_cons_self
  have spells : Header.Spells node.data Catalog.ghdrVersion1 := Or.inr (by decide +kernel)
  exact ⟨⟨member, rfl⟩, spells, (readingsAgree_iff member true 0 rfl).mpr fun _ => spells⟩

/-- A header of the built-in format with a blank behind the label: its data resolves to the schema,
the check fails, and the version is called unrecognised. -/
theorem checkHeader_paddedLabel :
    let node := Node.alone "GHDR" "Version 1.0 " 0
    Catalog.ghdrVersion1 ∈ Catalog.ghdr.schemas ∧ node.title = Catalog.ghdr.tag ∧
      declared Catalog.ghdr node.data = .ok (some Catalog.ghdrVersion1) ∧
      checkHeader Catalog.ghdr Catalog.ghdrVersion1 (some (0, node)) (.empty true) =
        .ok (false, ⟨true, [Header.unrecognised Catalog.ghdrVersion1 0 node.data]⟩) := by
  intro node
  have resolved : Catalog.ghdr.declared? node.data = some Catalog.ghdrVersion1 := by
    decide +kernel
  have free : Header.obstacle? Catalog.ghdr Catalog.ghdrVersion1 (some (0, node)) = none := by
    decide +kernel
  have checked : Header.check true Catalog.ghdr Catalog.ghdrVersion1 (some (0, node)) =
      (false, [Header.unrecognised Catalog.ghdrVersion1 0 node.data]) := by
    decide +kernel
  refine ⟨List.mem_cons_self, rfl, ?_, ?_⟩
  · rw [declared_eq_ok, resolved]
  · rw [checkHeader_eq, free, settle]
    exact congrArg (fun result => Except.ok (result.1, Log.mk true result.2)) checked

end Direct

end TreeSchema
