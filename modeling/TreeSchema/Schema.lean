/-
This file holds the schema of one version of a format: its label, its ordinal, the
file extension it requires, and its definitions. A schema can only be built from
parts that are consistent, so every template of a schema can be read and every
reference leads to one of its definitions. What is wrong with other parts is a fault of
the schema, but two faults are not meant to be any: a level that is too long for the
message about it, and an extension that is no text.
-/
import TreeSchema.Definition
import TreeSchema.Number.Whole
import TreeSchema.Template.Reader
import TreeSchema.Text.Case

namespace TreeSchema

namespace Schema

/-- The two texts of a node that have templates. -/
inductive Part where
  | title
  | data
  deriving DecidableEq, Repr, Inhabited

def Part.name : Part → String
  | title => "title"
  | data => "data"

/-- What is wrong with the parts of a schema. -/
inductive Cause where
  | definitionKey (key name : String)
  | notDefinition (kind : String)
  | duplicateName (name : String)
  | emptyLabel
  | badExtension (fileExtension : String)
  | extensionKind (kind : String)
  | badName (name : String)
  | negativeLevel (name level : String)
  | unwritableLevel
  | badTemplate (name : String) (part : Part) (fault : Template.Fault)
  | misplacedHead (name : String) (relation : Relation)
  | unknownReference (name reference : String) (relation : Relation)
  deriving DecidableEq, Repr, Inhabited

/-- What is wrong, after the label of the schema it is wrong with. -/
def Cause.detail : Cause → String
  | definitionKey key name =>
    "definition keyed " ++ Text.quoted key ++ " is named " ++ Text.quoted name
  | notDefinition kind => "expected FormatNodeDefinition, got " ++ kind
  | duplicateName name => "duplicate definition name " ++ Text.quoted name
  | emptyLabel => "schema version_label must be non-empty"
  | badExtension fileExtension =>
    "file_extension must start with '.', got " ++ Text.quoted fileExtension
  | extensionKind kind => "'" ++ kind ++ "' object has no attribute 'startswith'"
  | badName name => "invalid definition name " ++ Text.quoted name
  | negativeLevel name level =>
    "definition " ++ Text.quoted name ++ " has negative level " ++ level
  | unwritableLevel => Whole.tooLongMessage none
  | badTemplate name part fault =>
    "definition " ++ Text.quoted name ++ " has a bad " ++ part.name ++ " template: " ++
      fault.message
  | misplacedHead name relation =>
    "definition " ++ Text.quoted name ++ " uses the header marker in " ++ relation.key
  | unknownReference name reference relation =>
    "definition " ++ Text.quoted name ++ " references unknown node " ++ Text.quoted reference ++
      " in " ++ relation.key

/-- A cause and the label of the schema. -/
structure Fault where
  label : String
  cause : Cause
  deriving DecidableEq, Repr, Inhabited

def Fault.message (fault : Fault) : String :=
  match fault.cause with
  | .emptyLabel => fault.cause.detail
  | .unwritableLevel => fault.cause.detail
  | .extensionKind _ => fault.cause.detail
  | cause => fault.label ++ ": " ++ cause.detail

/-- The fault where the extension is a value of some kind and no text. -/
def Fault.ofNoText (kind : String) (fault : Fault) : Fault :=
  match fault.cause with
  | .badExtension _ => ⟨fault.label, .extensionKind kind⟩
  | _ => fault

/-- The kind of error that a fault is raised as. -/
def Fault.kind (fault : Fault) : String :=
  match fault.cause with
  | .unwritableLevel => "ValueError"
  | .extensionKind _ => "AttributeError"
  | _ => "SchemaError"

/-! ### Consistency -/

/-- The characters that a name may hold after its first one. -/
def isNameCharacter (character : Char) : Bool :=
  character.isAlphanum || character == '_' || character == '.' || character == '-'

/-- The rest of a name; one line break is tolerated at its very end. -/
def isNameRest : List Char → Bool
  | [] => true
  | ['\n'] => true
  | character :: rest => isNameCharacter character && isNameRest rest

/-- A name starts with a letter or an underscore. -/
def isName (name : String) : Bool :=
  match name.toList with
  | [] => false
  | first :: rest => (first.isAlpha || first == '_') && isNameRest rest

/-- A file extension is a dot and at least one more character. -/
def isExtension (fileExtension : String) : Bool :=
  match fileExtension.toList with
  | '.' :: _ :: _ => true
  | _ => false

/-- The first name that an earlier definition already has. -/
def duplicate? : (earlier : List String) → List Definition → Option Cause
  | _, [] => none
  | earlier, definition :: rest =>
    if definition.name ∈ earlier then some (.duplicateName definition.name)
    else duplicate? (definition.name :: earlier) rest

/-- What is wrong with a template of a definition. -/
def templateFault? (definition : Definition) (part : Part) (template : String) : Option Cause :=
  match Template.read template with
  | .ok _ => none
  | .error fault => some (.badTemplate definition.name part fault)

/-- What is wrong with a reference, where `names` are the names that are defined. -/
def referenceFault? (names : List String) (definition : Definition) (relation : Relation) :
    Reference → Option Cause
  | .absent => none
  | .head =>
    if relation = .previousSiblings then none else some (.misplacedHead definition.name relation)
  | .named name =>
    if name ∈ names then none else some (.unknownReference definition.name name relation)

/-- What is said of a definition with a negative level. -/
def levelFault (definition : Definition) : Cause :=
  match Whole.text? definition.level with
  | some level => .negativeLevel definition.name level
  | none => .unwritableLevel

/-- What is wrong with one definition: its name, its level, its templates or its references. -/
def definitionFault? (names : List String) (definition : Definition) : Option Cause :=
  if !isName definition.name then some (.badName definition.name)
  else if definition.level < 0 then some (levelFault definition)
  else
    ((templateFault? definition .title definition.title).or
      (templateFault? definition .data definition.data)).or
      (definition.references.findSome? fun (relation, reference) =>
        referenceFault? names definition relation reference)

/-- The first thing that is wrong with the parts of a schema. -/
def cause? (label fileExtension : String) (definitions : List Definition) : Option Cause :=
  (duplicate? [] definitions).or
    (if label = "" then some .emptyLabel
    else if !isExtension fileExtension then some (.badExtension fileExtension)
    else definitions.findSome? (definitionFault? (definitions.map Definition.name)))

end Schema

/-- A consistent schema, its definitions in declaration order. -/
structure Schema where
  label : String
  ordinal : Int
  fileExtension : String
  definitions : List Definition
  consistent : Schema.cause? label fileExtension definitions = none
  deriving DecidableEq

namespace Schema

/-- The schema with the parts given, or what is wrong with them. -/
def ofDefinitions (label : String) (ordinal : Int) (fileExtension : String)
    (definitions : List Definition) : Except Fault Schema :=
  match checked : cause? label fileExtension definitions with
  | none => .ok ⟨label, ordinal, fileExtension, definitions, checked⟩
  | some cause => .error ⟨label, cause⟩

/-- A member of a list in which definitions are expected. -/
inductive Item where
  | definition (definition : Definition)
  | other (kind : String)

/-- The definitions before the first member of another kind, and that kind. -/
def leading : List Item → List Definition × Option String
  | [] => ([], none)
  | .other kind :: _ => ([], some kind)
  | .definition definition :: rest =>
    let (definitions, kind) := leading rest
    (definition :: definitions, kind)

/-- The schema of a list of members, in which the first fault counts: a member of another kind, or
a name that an earlier definition has. -/
def ofItems (label : String) (ordinal : Int) (fileExtension : String) (items : List Item) :
    Except Fault Schema :=
  match leading items with
  | (definitions, none) => ofDefinitions label ordinal fileExtension definitions
  | (definitions, some kind) =>
    .error ⟨label, (duplicate? [] definitions).getD (.notDefinition kind)⟩

/-- The schema of definitions under keys, each of which must be the name of its definition. -/
def ofKeyed (label : String) (ordinal : Int) (fileExtension : String)
    (entries : List (String × Definition)) : Except Fault Schema :=
  match entries.find? fun entry => entry.1 != entry.2.name with
  | some (key, definition) => .error ⟨label, .definitionKey key definition.name⟩
  | none => ofDefinitions label ordinal fileExtension (entries.map Prod.snd)

/-- The schema with an extension that may be any value. One that is no text is refused where a text
without a dot would be. -/
def withExtension (fileExtension : Value) (schema : String → Except Fault Schema) :
    Except Fault Schema :=
  match fileExtension with
  | .text fileExtension => schema fileExtension
  | value => (schema "").mapError (.ofNoText value.kind)

/-! ### Looking up -/

/-- The definition of a name. -/
def find? (schema : Schema) (name : String) : Option Definition :=
  schema.definitions.find? fun definition => definition.name == name

/-- What is said of a name without a definition. -/
def unknownName (schema : Schema) (name : String) : String :=
  schema.label ++ ": no definition named " ++ Text.quoted name

/-- The names of the definitions that may stand right after the header. -/
def headCandidates (schema : Schema) : List String :=
  (schema.definitions.filter Definition.followsHeader).map Definition.name

/-- Whether a file extension is the one required, case aside. -/
def matchesExtension (schema : Schema) (fileExtension : String) : Bool :=
  Text.lower schema.fileExtension == Text.lower fileExtension

end Schema

end TreeSchema
