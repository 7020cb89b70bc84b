/-
This file holds the declared form of a definition: a record with its name, its
templates, its level and its four relations. Reading is lenient about kinds (a
name may be any value, a level anything that stands for a whole number) and
strict about keys: the name must be there, and no key may be unknown.
-/
import TreeSchema.Definition
import TreeSchema.Value.Mapping
import TreeSchema.Value.Whole

namespace TreeSchema.Definition

/-- Why a value declares no definition. -/
inductive FormFault where
  | notMapping (fault : Value.MappingFault)
  | missingName
  | badLevel (fault : Value.WholeFault)
  | badRelation (relation : Relation) (value : Value)
  | unknownKeys (name : String) (sorted : List Value)
  | unsortedKeys (name : String)
  deriving Repr, Inhabited

def FormFault.message : FormFault → String
  | notMapping fault => fault.message
  | missingName => "format node definition requires a 'name'"
  | badLevel fault => fault.message
  | badRelation _ value => "'" ++ value.kind ++ "' object is not iterable"
  | unknownKeys name sorted =>
    "unknown keys in definition " ++ Text.quoted name ++ ": " ++ (Value.list sorted).shown
  | unsortedKeys name => "the keys of definition " ++ Text.quoted name ++ " have no order"

/-- The text of a template key, empty where nothing is given. -/
def templateText (value : Option Value) : String :=
  match value with
  | some value => if value.isGiven then value.display else ""
  | none => ""

/-- A template under its key or, failing that, under the longer key; both keys are taken. -/
def takeTemplate (key longKey : String) (mapping : Value.Mapping) : String × Value.Mapping :=
  let (long, mapping) := mapping.take longKey
  let (short, mapping) := mapping.take key
  (templateText (short.or long), mapping)

/-- A level, zero where none is given. -/
def takeLevel (mapping : Value.Mapping) : Except FormFault (Int × Value.Mapping) :=
  let (level, mapping) := mapping.take "level"
  match (level.getD (.integer 0)).toWhole with
  | .ok level => .ok (level, mapping)
  | .error fault => .error (.badLevel fault)

/-- The references of a relation, none where it is not given. -/
def takeRelation (relation : Relation) (mapping : Value.Mapping) :
    Except FormFault (Neighbours × Value.Mapping) :=
  let (value, mapping) := mapping.take relation.key
  let value := value.getD (.list [])
  match Reference.ofRelation? value with
  | some references => .ok (Neighbours.ofList references, mapping)
  | none => .error (.badRelation relation value)

/-- Refuses the keys that are left. -/
def refuseKeys (name : String) (mapping : Value.Mapping) : Except FormFault Unit :=
  if mapping.isEmpty then .ok ()
  else
    match Value.sorted? (mapping.map Prod.fst) with
    | some sorted => .error (.unknownKeys name sorted)
    | none => .error (.unsortedKeys name)

/-- The definition that a mapping declares. -/
def ofMapping (mapping : Value.Mapping) : Except FormFault Definition := do
  let (name, mapping) := mapping.take "name"
  let name ← match name with
    | some name => .ok name.display
    | none => .error .missingName
  let (title, mapping) := takeTemplate "title" "title_pattern" mapping
  let (data, mapping) := takeTemplate "data" "data_pattern" mapping
  let (level, mapping) ← takeLevel mapping
  let (parents, mapping) ← takeRelation .parents mapping
  let (previousSiblings, mapping) ← takeRelation .previousSiblings mapping
  let (nextSiblings, mapping) ← takeRelation .nextSiblings mapping
  let (children, mapping) ← takeRelation .children mapping
  refuseKeys name mapping
  return { name, title, data, level, parents, previousSiblings, nextSiblings, children }

/-- The definition that a value declares. -/
def ofForm (value : Value) : Except FormFault Definition :=
  match Value.Mapping.ofValue value with
  | .ok mapping => ofMapping mapping
  | .error fault => .error (.notMapping fault)

/-- The declared form of a definition. -/
def form (definition : Definition) : Value :=
  .record
    ([("name", .text definition.name), ("title", .text definition.title),
      ("data", .text definition.data), ("level", .integer definition.level)] ++
      Relation.all.map fun relation =>
        (relation.key,
          .list ((definition.neighbours relation).references.map Reference.token)))

end TreeSchema.Definition
