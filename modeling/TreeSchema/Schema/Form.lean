/-
This file holds the declared form of a schema: a record with its version label, its
ordinal, its extension, and the forms of its definitions.
-/
import TreeSchema.Schema
import TreeSchema.Definition.Form

namespace TreeSchema.Schema

/-- Why a value declares no schema. -/
inductive FormFault where
  | notRecord (value : Value)
  | missingKey (key : String)
  | badOrdinal (fault : Value.WholeFault)
  | badNodes (value : Value)
  | badDefinition (fault : Definition.FormFault)
  | inconsistent (fault : Fault)
  deriving Repr, Inhabited

def FormFault.message : FormFault → String
  | notRecord value => "'" ++ value.kind ++ "' has no keys"
  | missingKey key => "schema dict is missing " ++ Text.quoted key
  | badOrdinal fault => fault.message
  | badNodes value => "'" ++ value.kind ++ "' object is not iterable"
  | badDefinition fault => fault.message
  | inconsistent fault => fault.message

/-- The value of a key that must be there. -/
def required (key : String) (entries : List (String × Value)) : Except FormFault Value :=
  match Value.lookup? key entries with
  | some value => .ok value
  | none => .error (.missingKey key)

/-- The definitions that a value lists. -/
def definitionsOf (nodes : Value) : Except FormFault (List Definition) :=
  match nodes.members? with
  | none => .error (.badNodes nodes)
  | some members => (members.mapM Definition.ofForm).mapError .badDefinition

/-- The schema that the entries of a record declare. -/
def ofEntries (entries : List (String × Value)) : Except FormFault Schema := do
  let version ← required "version" entries
  let ordinal ← required "ordinal" entries
  let ordinal ← ordinal.toWhole.mapError .badOrdinal
  let fileExtension ← required "extension" entries
  let definitions ← definitionsOf ((Value.lookup? "nodes" entries).getD (.list []))
  (ofDefinitions version.display ordinal fileExtension.display definitions).mapError .inconsistent

/-- The schema that a value declares. -/
def ofForm : Value → Except FormFault Schema
  | .record entries => ofEntries entries
  | value => .error (.notRecord value)

/-- The declared form of a schema. -/
def form (schema : Schema) : Value :=
  .record [("version", .text schema.label), ("ordinal", .integer schema.ordinal),
    ("extension", .text schema.fileExtension),
    ("nodes", .list (schema.definitions.map Definition.form))]

end TreeSchema.Schema
