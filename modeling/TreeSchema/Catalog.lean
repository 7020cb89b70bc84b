/-
This file holds the catalog of a format: its tag and the schemas of its versions.
Labels and ordinals are unique within a catalog, so each of them names at most one
schema. A version may be looked up by any value, of which only texts are labels.
-/
import TreeSchema.Schema
import TreeSchema.Value.Display
import TreeSchema.Value.Order

namespace TreeSchema

namespace Catalog

/-- What is wrong with the parts of a catalog. -/
inductive Cause where
  | emptyTag
  | schemaKey (key label : String)
  | duplicateVersion (label : String)
  | sharedOrdinal (label other ordinal : String)
  | unwritableOrdinal
  deriving DecidableEq, Repr, Inhabited

/-- A cause and the tag of the catalog. -/
structure Fault where
  tag : String
  cause : Cause
  deriving DecidableEq, Repr, Inhabited

def Fault.message (fault : Fault) : String :=
  match fault.cause with
  | .emptyTag => "format_tag must be non-empty"
  | .schemaKey key label =>
    fault.tag ++ ": schema keyed " ++ Text.quoted key ++ " is labelled " ++ Text.quoted label
  | .duplicateVersion label => fault.tag ++ ": duplicate version " ++ Text.quoted label
  | .sharedOrdinal label other ordinal =>
    fault.tag ++ ": " ++ Text.quoted label ++ " and " ++ Text.quoted other ++ " share ordinal " ++
      ordinal
  | .unwritableOrdinal => Whole.tooLongMessage none

/-- The kind of error that a fault is raised as. -/
def Fault.kind (fault : Fault) : String :=
  match fault.cause with
  | .unwritableOrdinal => "ValueError"
  | _ => "SchemaError"

/-- What is said of two schemas that share an ordinal. -/
def ordinalFault (schema other : Schema) : Cause :=
  match Whole.text? schema.ordinal with
  | some ordinal => .sharedOrdinal schema.label other.label ordinal
  | none => .unwritableOrdinal

/-- What is wrong with the first schema that does not fit the earlier ones. -/
def clash? : (earlier : List Schema) → List (String × Schema) → Option Cause
  | _, [] => none
  | earlier, (key, schema) :: rest =>
    if key ≠ schema.label then some (.schemaKey key schema.label)
    else if earlier.any fun other => other.label == schema.label then
      some (.duplicateVersion schema.label)
    else
      match earlier.find? fun other => other.ordinal == schema.ordinal with
      | some other => some (ordinalFault schema other)
      | none => clash? (schema :: earlier) rest

/-- The first thing that is wrong with a tag and schemas under keys. -/
def cause? (tag : String) (entries : List (String × Schema)) : Option Cause :=
  if tag = "" then some .emptyTag else clash? [] entries

/-- Schemas under their own labels. -/
def labelled (schemas : List Schema) : List (String × Schema) :=
  schemas.map fun schema => (schema.label, schema)

end Catalog

/-- A consistent catalog, its schemas in the order in which they were given. -/
structure Catalog where
  tag : String
  schemas : List Schema
  consistent : Catalog.cause? tag (Catalog.labelled schemas) = none
  deriving DecidableEq

namespace Catalog

/-- The catalog of a tag and schemas, or what is wrong with them. -/
def ofSchemas (tag : String) (schemas : List Schema) : Except Fault Catalog :=
  match checked : cause? tag (labelled schemas) with
  | none => .ok ⟨tag, schemas, checked⟩
  | some cause => .error ⟨tag, cause⟩

/-- The catalog of a tag and schemas under keys, each of which must be the label of its schema. -/
def ofKeyed (tag : String) (entries : List (String × Schema)) : Except Fault Catalog :=
  match cause? tag entries with
  | some cause => .error ⟨tag, cause⟩
  | none => ofSchemas tag (entries.map Prod.snd)

/-! ### Looking up -/

/-- The schema with a label. -/
def find? (catalog : Catalog) (label : String) : Option Schema :=
  catalog.schemas.find? fun schema => schema.label == label

/-- The schema with an ordinal. -/
def findOrdinal? (catalog : Catalog) (ordinal : Int) : Option Schema :=
  catalog.schemas.find? fun schema => schema.ordinal == ordinal

/-- The schemas by ascending ordinal. -/
def ordered (catalog : Catalog) : List Schema :=
  catalog.schemas.mergeSort fun first second => first.ordinal ≤ second.ordinal

/-- The version labels by ascending ordinal. -/
def versions (catalog : Catalog) : List String :=
  catalog.ordered.map Schema.label

/-- The schema with the greater ordinal, the first one where neither is greater. -/
def later (first second : Schema) : Schema :=
  if first.ordinal < second.ordinal then second else first

/-- The schema with the greatest ordinal, found in one pass over the schemas. -/
def latest? (catalog : Catalog) : Option Schema :=
  match catalog.schemas with
  | [] => none
  | first :: rest => some (rest.foldl later first)

/-- Why a look-up in a catalog finds no schema: a version that it does not have, as messages show
it, or one that cannot be written into the message, or a value that is no key at all, or there are
no schemas. -/
inductive LookupFault where
  | unknownVersion (tag version : String) (known : List String)
  | unwritable
  | noKey (kind : String)
  | noSchemas (tag : String)
  deriving DecidableEq, Repr, Inhabited

def LookupFault.message : LookupFault → String
  | unknownVersion tag version known =>
    tag ++ ": unknown version " ++ version ++ " (known: " ++
      (if known.isEmpty then "<none>" else ", ".intercalate known) ++ ")"
  | unwritable => Whole.tooLongMessage none
  | noKey kind => "unhashable type: '" ++ kind ++ "'"
  | noSchemas tag => tag ++ ": catalog has no schemas."

/-- The kind of error that a fault is raised as. -/
def LookupFault.kind : LookupFault → String
  | unknownVersion _ _ _ => "KeyError"
  | unwritable => "ValueError"
  | noKey _ => "TypeError"
  | noSchemas _ => "ValueError"

/-- What is said of a version that a catalog does not have. -/
def LookupFault.ofVersion (tag : String) (known : List String) : Value → LookupFault
  | .integer version =>
    match Whole.text? version with
    | some shown => .unknownVersion tag shown known
    | none => .unwritable
  | version =>
    if version.canBeKey then .unknownVersion tag version.shown known else .noKey version.kind

/-- The schema with a label that is expected to be there. -/
def get (catalog : Catalog) (label : String) : Except LookupFault Schema :=
  match catalog.find? label with
  | some schema => .ok schema
  | none => .error (.ofVersion catalog.tag catalog.versions (.text label))

/-- The schema under a value that is expected to be the label of one. -/
def getAt (catalog : Catalog) : (version : Value) → Except LookupFault Schema
  | .text label => catalog.get label
  | version => .error (.ofVersion catalog.tag catalog.versions version)

/-- The newest schema of a catalog that is expected to have one. -/
def latest (catalog : Catalog) : Except LookupFault Schema :=
  match catalog.latest? with
  | some schema => .ok schema
  | none => .error (.noSchemas catalog.tag)

end Catalog

end TreeSchema
