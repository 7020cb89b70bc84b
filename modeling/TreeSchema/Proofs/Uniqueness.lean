/-
This file draws from the consistency of a catalog that each of its schemas is known by
its label, and as well by its ordinal: no other schema of the catalog has the same one.
The order in which the schemas were given therefore plays no part in any look-up, and
bringing them in the order of their ordinals gives a consistent catalog again, with the
same schema under every label.
-/
import TreeSchema.Catalog

namespace TreeSchema.Catalog

/-! ### What a consistent catalog is -/

/-- Two schemas with different labels and different ordinals. -/
def Apart (schema other : Schema) : Prop :=
  other.label ≠ schema.label ∧ other.ordinal ≠ schema.ordinal

theorem Apart.symm {schema other : Schema} (apart : Apart schema other) : Apart other schema :=
  ⟨apart.1.symm, apart.2.symm⟩

/-- Schemas under their own labels clash with earlier ones, or with each other, unless any two of
them are apart. -/
theorem clash?_eq_none_iff {earlier schemas : List Schema} :
    clash? earlier (labelled schemas) = none ↔
      (∀ schema ∈ schemas, ∀ other ∈ earlier, Apart schema other) ∧ schemas.Pairwise Apart := by
  induction schemas generalizing earlier with
  | nil => exact iff_of_true rfl ⟨fun _ member => absurd member List.not_mem_nil, .nil⟩
  | cons schema rest inductionHypothesis =>
    have step : clash? earlier (labelled (schema :: rest)) = none ↔
        (∀ other ∈ earlier, Apart schema other) ∧
          clash? (schema :: earlier) (labelled rest) = none := by
      rw [labelled, List.map_cons, ← labelled, clash?, if_neg fun different => different rfl]
      by_cases labels : ∀ other ∈ earlier, other.label ≠ schema.label
      · rw [if_neg (by simpa using labels)]
        cases found : earlier.find? fun other => other.ordinal == schema.ordinal with
        | some other =>
          have ordinal : other.ordinal = schema.ordinal := by simpa using List.find?_some found
          refine iff_of_false nofun fun both => ?_
          exact (both.1 other (List.mem_of_find?_eq_some found)).2 ordinal
        | none =>
          simp only [List.find?_eq_none, beq_iff_eq] at found
          exact (and_iff_right fun other member =>
            ⟨labels other member, found other member⟩).symm
      · rw [if_pos (by simpa using labels)]
        refine iff_of_false nofun fun both => labels fun other member => ?_
        exact (both.1 other member).1
    rw [step, inductionHypothesis, List.pairwise_cons, List.forall_mem_cons]
    constructor
    · intro both
      obtain ⟨here, later, pairwise⟩ := both
      refine ⟨⟨here, fun other member earlier inEarlier => ?_⟩, fun other member => ?_, pairwise⟩
      · exact later other member earlier (List.mem_cons_of_mem _ inEarlier)
      · exact (later other member schema List.mem_cons_self).symm
    · intro both
      obtain ⟨⟨here, later⟩, first, pairwise⟩ := both
      refine ⟨here, fun other member earlier inEarlier => ?_, pairwise⟩
      rcases List.mem_cons.mp inEarlier with rfl | inEarlier
      · exact (first other member).symm
      · exact later other member earlier inEarlier

/-- A tag and schemas are consistent exactly if the tag is not empty and any two of the schemas are
apart. -/
theorem cause?_eq_none_iff {tag : String} {schemas : List Schema} :
    cause? tag (labelled schemas) = none ↔ tag ≠ "" ∧ schemas.Pairwise Apart := by
  rw [cause?]
  by_cases empty : tag = ""
  · rw [if_pos empty]
    exact iff_of_false nofun fun both => both.1 empty
  · rw [if_neg empty, clash?_eq_none_iff, and_iff_right empty, and_iff_right]
    exact fun _ _ _ member => absurd member List.not_mem_nil

variable (catalog : Catalog)

/-- Any two schemas of a catalog are apart. -/
theorem pairwise_apart : catalog.schemas.Pairwise Apart :=
  (cause?_eq_none_iff.mp catalog.consistent).2

/-! ### Looking up -/

variable {catalog}

/-- Where no two schemas have the same key, the schema found under a key is the one that has it. -/
theorem find?_key_eq_some_iff {Key : Type} [BEq Key] [LawfulBEq Key] {key : Schema → Key}
    {schemas : List Schema} (distinct : schemas.Pairwise fun schema other => key other ≠ key schema)
    {wanted : Key} {schema : Schema} :
    (schemas.find? fun other => key other == wanted) = some schema ↔
      schema ∈ schemas ∧ key schema = wanted := by
  constructor
  · intro found
    exact ⟨List.mem_of_find?_eq_some found, by simpa using List.find?_some found⟩
  · intro both
    obtain ⟨member, rfl⟩ := both
    rw [List.find?_eq_some_iff_append]
    obtain ⟨before, after, rfl⟩ := List.append_of_mem member
    refine ⟨beq_self_eq_true _, before, after, rfl, fun other inBefore => ?_⟩
    rw [List.pairwise_append] at distinct
    have different := distinct.2.2 other inBefore schema List.mem_cons_self
    simpa using different.symm

/-- The schema found under a label is the one schema of the catalog that has it. -/
theorem find?_eq_some_iff {label : String} {schema : Schema} :
    catalog.find? label = some schema ↔ schema ∈ catalog.schemas ∧ schema.label = label :=
  find?_key_eq_some_iff (catalog.pairwise_apart.imp And.left)

/-- The schema found under an ordinal is the one schema of the catalog that has it. -/
theorem findOrdinal?_eq_some_iff {ordinal : Int} {schema : Schema} :
    catalog.findOrdinal? ordinal = some schema ↔
      schema ∈ catalog.schemas ∧ schema.ordinal = ordinal :=
  find?_key_eq_some_iff (catalog.pairwise_apart.imp And.right)

/-- Catalogs with the same schemas, in whatever order, have the same schema under every label. -/
theorem find?_eq_of_perm {other : Catalog} (same : other.schemas.Perm catalog.schemas)
    (label : String) : other.find? label = catalog.find? label := by
  refine Option.ext fun schema => ?_
  rw [find?_eq_some_iff, find?_eq_some_iff, same.mem_iff]

/-! ### By ascending ordinal -/

variable (catalog)

theorem ordered_perm : catalog.ordered.Perm catalog.schemas :=
  List.mergeSort_perm _ _

/-- The catalog with its schemas by ascending ordinal. -/
def byOrdinal : Catalog where
  tag := catalog.tag
  schemas := catalog.ordered
  consistent := by
    rw [cause?_eq_none_iff, catalog.ordered_perm.pairwise_iff Apart.symm]
    exact cause?_eq_none_iff.mp catalog.consistent

theorem find?_byOrdinal (label : String) : catalog.byOrdinal.find? label = catalog.find? label :=
  find?_eq_of_perm catalog.ordered_perm label

/-- Schemas by ascending ordinal are in order already. -/
theorem ordered_byOrdinal : catalog.byOrdinal.ordered = catalog.ordered := by
  refine List.mergeSort_of_pairwise (List.pairwise_mergeSort ?_ ?_ _)
  · intro first second third
    simp only [decide_eq_true_eq]
    exact Int.le_trans
  · intro first second
    simpa using Int.le_total first.ordinal second.ordinal

end TreeSchema.Catalog
