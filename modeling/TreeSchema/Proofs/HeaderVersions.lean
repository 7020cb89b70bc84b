/-
This file says how far the header of a file determines its version. The data of a header may
name a version by the label, or, blanks around it aside, by the digits of the ordinal. No two
versions of a catalog have the same label, and no two the same ordinal, whose digits can be
read back; so a header names at most one version by label, and at most one by ordinal. Labels
are not kept apart from ordinals, though: a label may consist of the digits of another
version's ordinal, and then a header with this label is right for both versions.
-/
import Mathlib
import TreeSchema.Proofs.BuiltIn
import TreeSchema.Proofs.Uniqueness

namespace TreeSchema

namespace Catalog

/-- Two different schemas of a catalog have different labels and different ordinals. -/
theorem apart_of_ne {catalog : Catalog} {schema other : Schema}
    (member : schema ∈ catalog.schemas) (otherMember : other ∈ catalog.schemas)
    (different : schema ≠ other) : Apart schema other := by
  have symmetric : Std.Symm Apart := ⟨fun _ _ => Apart.symm⟩
  exact catalog.pairwise_apart.forall member otherMember different

end Catalog

namespace Header

/-- The data is the label of the first schema, and without the blanks around it the ordinal of the
second one. -/
def Overlaps (data : String) (schema other : Schema) : Prop :=
  data = schema.label ∧ Text.strip data = toString other.ordinal

/-- Two schemas of a catalog that a header is right for are the same one, unless the data of the
header is the label of one of them and the ordinal of the other. -/
theorem eq_or_overlaps_of_check {trace otherTrace : Bool} {catalog : Catalog}
    {schema other : Schema} {header : Option (Nat × Node)} (member : schema ∈ catalog.schemas)
    (otherMember : other ∈ catalog.schemas)
    (ok : (check trace catalog schema header).1 = true)
    (otherOk : (check otherTrace catalog other header).1 = true) :
    schema = other ∨ ∃ place node, header = some (place, node) ∧
      (Overlaps node.data schema other ∨ Overlaps node.data other schema) := by
  obtain ⟨⟨place, node⟩, rfl, _, named⟩ := check_eq_true_iff.mp ok
  obtain ⟨_, same, _, otherNamed⟩ := check_eq_true_iff.mp otherOk
  cases same
  by_cases equal : schema = other
  · exact Or.inl equal
  · have apart := Catalog.apart_of_ne member otherMember equal
    refine Or.inr ⟨place, node, rfl, ?_⟩
    simp only [Whole.text?_eq_some_iff] at named otherNamed
    rcases named with label | ⟨_, ordinal⟩
    · rcases otherNamed with otherLabel | ⟨_, otherOrdinal⟩
      · exact absurd (otherLabel.symm.trans label) apart.1
      · exact Or.inl ⟨label, otherOrdinal⟩
    · rcases otherNamed with otherLabel | ⟨_, otherOrdinal⟩
      · exact Or.inr ⟨otherLabel, ordinal⟩
      · have digits : other.ordinal.repr = schema.ordinal.repr := otherOrdinal.symm.trans ordinal
        exact absurd (Int.repr_injective digits) apart.2

end Header

/-! ### A label that reads like an ordinal -/

namespace Catalog

/-- The first version of a format, under a label that is a number. -/
def noteVersion1 : Schema where
  label := "2"
  ordinal := 1
  fileExtension := ".note"
  definitions := []
  consistent := by decide +kernel

/-- The second version of the format. -/
def noteVersion2 : Schema where
  label := "Version 2"
  ordinal := 2
  fileExtension := ".note"
  definitions := []
  consistent := by decide +kernel

/-- A catalog in which a label is the ordinal of another version. -/
def notes : Catalog where
  tag := "NOTE"
  schemas := [noteVersion1, noteVersion2]
  consistent := by decide +kernel

end Catalog

namespace Header

/-- A header is right for two versions of one format. -/
theorem check_notes :
    let header := some (0, Node.alone "NOTE" "2" 0)
    (Catalog.noteVersion1 ∈ Catalog.notes.schemas ∧
        Catalog.noteVersion2 ∈ Catalog.notes.schemas) ∧
      (check false Catalog.notes Catalog.noteVersion1 header).1 = true ∧
      (check false Catalog.notes Catalog.noteVersion2 header).1 = true ∧
      Catalog.noteVersion1 ≠ Catalog.noteVersion2 := by
  refine ⟨⟨by decide +kernel, by decide +kernel⟩, by decide +kernel, by decide +kernel, ?_⟩
  exact fun same => absurd (congrArg Schema.ordinal same) (by decide)

/-- The header that is right for two versions has the label of one and the ordinal of the other. -/
theorem eq_or_overlaps_of_check_notes :
    let node := Node.alone "NOTE" "2" 0
    (check true Catalog.notes Catalog.noteVersion1 (some (0, node))).1 = true ∧
      (check false Catalog.notes Catalog.noteVersion2 (some (0, node))).1 = true ∧
      (Overlaps node.data Catalog.noteVersion1 Catalog.noteVersion2 ∨
        Overlaps node.data Catalog.noteVersion2 Catalog.noteVersion1) := by
  intro node
  have ok : (check true Catalog.notes Catalog.noteVersion1 (some (0, node))).1 = true := by
    decide +kernel
  have otherOk : (check false Catalog.notes Catalog.noteVersion2 (some (0, node))).1 = true := by
    decide +kernel
  refine ⟨ok, otherOk, ?_⟩
  rcases eq_or_overlaps_of_check (by decide +kernel) (by decide +kernel) ok otherOk with
    same | ⟨_, _, found, overlaps⟩
  · exact absurd (congrArg Schema.ordinal same) (by decide)
  · cases found
    exact overlaps

end Header

end TreeSchema
