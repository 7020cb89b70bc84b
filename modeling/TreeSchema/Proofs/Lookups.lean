/-
This file says what the look-ups of a catalog answer, and that the order in which the schemas
were given plays no part in it. A schema is looked up by its label, by its ordinal, or as the
one with the greatest ordinal, and the versions are listed by ascending ordinal; each of these
goes over the schemas in a way of its own. What makes them agree is that labels are distinct
and ordinals are distinct. Then a label and an ordinal name one schema each, wherever it
stands, one schema only has the greatest ordinal, and the same schemas have one ascending
order only, whose last schema it is.
-/
import Mathlib.Data.List.Nodup
import TreeSchema.Proofs.Declaration

namespace TreeSchema.Catalog

/-! ### What is refused -/

variable {catalog : Catalog}

/-- What a catalog answers, in terms of the tag and the schemas that it was made of. -/
structure Answers (tag : String) (schemas : List Schema) (catalog : Catalog) : Prop where
  versions : catalog.versions.Perm (schemas.map Schema.label)
  ascending : catalog.versions.Pairwise fun label next => ∃ schema other,
    catalog.get label = .ok schema ∧ catalog.get next = .ok other ∧ schema.ordinal < other.ordinal
  latest : ∀ schema, catalog.latest = .ok schema ↔
    schema ∈ schemas ∧ catalog.versions.getLast? = some schema.label
  noLatest : ∀ fault, catalog.latest = .error fault ↔ schemas = [] ∧ fault = .noSchemas tag
  get : ∀ version schema, catalog.getAt version = .ok schema ↔
    schema ∈ schemas ∧ version = .text schema.label
  unknown : ∀ version fault, catalog.getAt version = .error fault ↔
    (∀ label ∈ catalog.versions, version ≠ .text label) ∧
      fault = .ofVersion tag catalog.versions version
  keyError : ∀ version fault, catalog.getAt version = .error fault →
    (fault.kind = "KeyError" ↔
      version.canBeKey = true ∧ ∀ value, version = .integer value → Whole.IsShort value)
  findOrdinal? : ∀ ordinal schema, catalog.findOrdinal? ordinal = some schema ↔
    schema ∈ schemas ∧ schema.ordinal = ordinal
  form : ∃ listed, catalog.versions.mapM catalog.get = .ok listed ∧
    catalog.form = .record [("format", .text tag), ("schemas", .list (listed.map Schema.form))]

end TreeSchema.Catalog
