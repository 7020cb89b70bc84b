/-
This file proves that a catalog that is written to a file is read back from it. The text
of the file holds the form of the catalog as it is: forms are made of texts, whole
numbers, nulls, lists and records of distinct keys, and those are read as they were
written. The line ends of the text are newlines already, and its encoding is undone by
the reading. What the form declares is the catalog itself, up to the order of its schemas.
-/
import TreeSchema.Catalog.File
import TreeSchema.Proofs.Declaration
import TreeSchema.Proofs.WrittenValues

namespace TreeSchema

open Json (Plain)

/-! ### Forms can be written -/

theorem Reference.plain_token (reference : Reference) : Plain reference.token := by
  cases reference with
  | absent => exact .null
  | head => exact .text _
  | named name => exact .text name

theorem Definition.plain_form (definition : Definition) : Plain definition.form := by
  refine .record (by simp [Relation.all, Relation.key]) fun entry member => ?_
  rcases List.mem_append.mp member with member | member
  · simp only [List.mem_cons, List.not_mem_nil, or_false] at member
    rcases member with rfl | rfl | rfl | rfl
    case inr.inr.inr => exact .integer _
    all_goals exact .text _
  · obtain ⟨relation, _, rfl⟩ := List.mem_map.mp member
    refine .list fun item listed => ?_
    obtain ⟨reference, _, rfl⟩ := List.mem_map.mp listed
    exact reference.plain_token

theorem Schema.plain_form (schema : Schema) : Plain schema.form := by
  refine .record (by simp) fun entry member => ?_
  simp only [List.mem_cons, List.not_mem_nil, or_false] at member
  rcases member with rfl | rfl | rfl | rfl
  · exact .text _
  · exact .integer _
  · exact .text _
  · refine .list fun item listed => ?_
    obtain ⟨definition, _, rfl⟩ := List.mem_map.mp listed
    exact definition.plain_form

namespace Catalog

theorem plain_form (catalog : Catalog) : Plain catalog.form := by
  refine .record (by simp) fun entry member => ?_
  simp only [List.mem_cons, List.not_mem_nil, or_false] at member
  rcases member with rfl | rfl
  · exact .text _
  · refine .list fun item listed => ?_
    obtain ⟨schema, _, rfl⟩ := List.mem_map.mp listed
    exact schema.plain_form

/-! ### Line ends and encoding -/

/-- Text without carriage returns has only line ends that are newlines. -/
theorem unifyLineEnds_eq_self {text : List Char} (noCarriage : '\r' ∉ text) :
    unifyLineEnds text = text := by
  fun_induction unifyLineEnds text with
  | case1 => rfl
  | case2 => exact absurd List.mem_cons_self noCarriage
  | case3 => exact absurd List.mem_cons_self noCarriage
  | case4 character rest _ _ inductionHypothesis =>
    rw [inductionHypothesis fun member => noCarriage (List.mem_cons_of_mem _ member)]

theorem fromUTF8?_toUTF8 (text : String) : String.fromUTF8? text.toUTF8 = some text :=
  dif_pos text.isValidUTF8

variable (catalog : Catalog)

theorem unifyLineEnds_fileText :
    unifyLineEnds catalog.fileText.toList = catalog.fileText.toList := by
  refine unifyLineEnds_eq_self ?_
  rw [fileText, String.toList_ofList, List.mem_append, not_or]
  exact ⟨Json.carriage_not_mem_writeValue catalog.plain_form 0, by decide⟩

/-- The text of the file of a catalog is read as the form of the catalog. -/
theorem readList_fileText :
    Json.readList (unifyLineEnds catalog.fileText.toList) = .ok catalog.form := by
  rw [unifyLineEnds_fileText, fileText, String.toList_ofList]
  exact Json.readList_writeValue catalog.plain_form

theorem ofText_fileText (fileName : String) :
    ofText fileName catalog.fileText = .ok catalog.byOrdinal := by
  rw [ofText, catalog.readList_fileText]
  exact congrArg (Except.mapError FileFault.badForm) catalog.ofForm_form

/-- The text of the file of a catalog holds the form of the catalog, and the file gives a catalog
with the same tag, the same schema under every label, and the same form. -/
theorem ofFile_fileText (fileName : String) :
    Json.readList (unifyLineEnds catalog.fileText.toList) = .ok catalog.form ∧
      ∃ loaded, ofFile fileName (some catalog.fileText.toUTF8) = .ok loaded ∧
        loaded.tag = catalog.tag ∧ (∀ label, loaded.find? label = catalog.find? label) ∧
        loaded.form = catalog.form := by
  refine ⟨catalog.readList_fileText, catalog.byOrdinal, ?_, rfl, catalog.find?_byOrdinal,
    catalog.form_byOrdinal⟩
  rw [ofFile, fromUTF8?_toUTF8]
  exact catalog.ofText_fileText fileName

end Catalog

end TreeSchema
