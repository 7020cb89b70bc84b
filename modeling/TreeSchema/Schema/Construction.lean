/-
This file builds a schema in one pass over the definitions given, with nothing prepared. The
definitions are entered under their names into a register, one after the other; then the
label, the extension and each definition in the register are checked, and names are looked up
in the register. Every step may raise something: a fault of the schema, a template that
cannot be read, a name that is not in the register, a level that cannot be written into a
message, an extension that is no text. Only the second is expected where it arises, and
becomes a fault of the schema that says which definition the template is from.
-/
import TreeSchema.Schema

namespace TreeSchema

/-- Definitions under keys, in the order in which they were entered. -/
abbrev Register := List (String × Definition)

namespace Register

/-- Whether there is an entry under a key. -/
def holds (register : Register) (key : String) : Bool :=
  register.any fun entry => entry.1 == key

/-- The definition under a key. -/
def definition? (register : Register) (key : String) : Option Definition :=
  (register.find? fun entry => entry.1 == key).map Prod.snd

/-- The definitions, in the order of their keys. -/
def definitions (register : Register) : List Definition :=
  register.map Prod.snd

end Register

/-- A schema that is being built, or was. -/
structure Construction where
  label : String
  ordinal : Int
  fileExtension : Value
  register : Register

namespace Construction

/-- What a step raises. -/
inductive Raised where
  | fault (fault : Schema.Fault)
  | unreadable (fault : Template.Fault)
  | unknownName (message : String)
  | unwritable
  | noText (kind : String)
  deriving DecidableEq, Repr

/-- A fault of the schema with the label given. -/
def refuse {Result : Type} (label : String) (cause : Schema.Cause) : Except Raised Result :=
  throw (.fault ⟨label, cause⟩)

/-- A template, as it is needed for comparisons. -/
def compile (template : String) : Except Raised Template :=
  (Template.read template).mapError .unreadable

/-- A template of a definition can be read; what is raised otherwise says whose it is. -/
def checkTemplate (label : String) (definition : Definition) (part : Schema.Part)
    (template : String) : Except Raised Unit := do
  try
    let _ ← compile template
    return ()
  catch
    | .unreadable fault => refuse label (.badTemplate definition.name part fault)
    | raised => throw raised

/-- A reference is a mark in its place or a name in the register. -/
def checkReference (label : String) (register : Register) (definition : Definition) :
    Relation × Reference → Except Raised Unit
  | (_, .absent) => return ()
  | (relation, .head) =>
    if relation ≠ .previousSiblings then refuse label (.misplacedHead definition.name relation)
    else return ()
  | (relation, .named name) =>
    if register.holds name then return ()
    else refuse label (.unknownReference definition.name name relation)

/-- One definition against the register. -/
def checkDefinition (label : String) (register : Register) (definition : Definition) :
    Except Raised Unit := do
  if !Schema.isName definition.name then refuse label (.badName definition.name)
  else if definition.level < 0 then
    match Whole.text? definition.level with
    | some level => refuse label (.negativeLevel definition.name level)
    | none => throw .unwritable
  else
    checkTemplate label definition .title definition.title
    checkTemplate label definition .data definition.data
    definition.references.forM (checkReference label register definition)

/-- An extension is a text with a dot and at least one more character. -/
def checkExtension (label : String) : (fileExtension : Value) → Except Raised Unit
  | .text fileExtension =>
    if !Schema.isExtension fileExtension then refuse label (.badExtension fileExtension)
    else return ()
  | value => throw (.noText value.kind)

/-- The parts of a schema, once its definitions are in the register. -/
def check (label : String) (fileExtension : Value) (register : Register) :
    Except Raised Unit := do
  if label = "" then refuse label .emptyLabel
  checkExtension label fileExtension
  register.definitions.forM (checkDefinition label register)

/-- The definition of a name that is expected to have one. -/
def get (construction : Construction) (name : String) : Except Raised Definition :=
  match construction.register.definition? name with
  | some definition => return definition
  | none =>
    throw (.unknownName
      (construction.label ++ ": no definition named " ++ Text.quoted name))

end Construction

end TreeSchema
