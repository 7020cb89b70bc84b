/-
This file holds the declared form of a catalog: a record with the tag of the format
and the forms of its schemas, by ascending ordinal.
-/
import TreeSchema.Catalog
import TreeSchema.Schema.Form

namespace TreeSchema.Catalog

/-- Why a value declares no catalog. -/
inductive FormFault where
  | notRecord (value : Value)
  | missingTag
  | badSchemas (value : Value)
  | badSchema (fault : Schema.FormFault)
  | inconsistent (fault : Fault)
  deriving Repr, Inhabited

def FormFault.message : FormFault → String
  | notRecord value => "catalog must be a JSON object, got " ++ value.kind
  | missingTag => "catalog dict is missing 'format'"
  | badSchemas value => "'" ++ value.kind ++ "' object is not iterable"
  | badSchema fault => fault.message
  | inconsistent fault => fault.message

/-- The catalog that a value declares. -/
def ofForm : Value → Except FormFault Catalog
  | .record entries =>
    match Value.lookup? "format" entries with
    | none => .error .missingTag
    | some tag =>
      let schemas := (Value.lookup? "schemas" entries).getD (.list [])
      match schemas.members? with
      | none => .error (.badSchemas schemas)
      | some members => do
        let schemas ← (members.mapM Schema.ofForm).mapError .badSchema
        (ofSchemas tag.display schemas).mapError .inconsistent
  | value => .error (.notRecord value)

/-- The declared form of a catalog. -/
def form (catalog : Catalog) : Value :=
  .record [("format", .text catalog.tag), ("schemas", .list (catalog.ordered.map Schema.form))]

end TreeSchema.Catalog
