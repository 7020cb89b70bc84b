/-
This file holds definitions whose templates have been read, so that a whole walk
reads each template once, and chooses among the candidates for a node: the first one
that matches binds it.
-/
import TreeSchema.Definition.Match
import TreeSchema.Document
import TreeSchema.Schema

namespace TreeSchema

/-- A definition with its templates. -/
structure Rule where
  definition : Definition
  title : Template
  data : Template
  deriving DecidableEq

namespace Rule

/-- The rule of a definition whose templates can be read. -/
def ofDefinition? (definition : Definition) : Option Rule :=
  match Template.read definition.title, Template.read definition.data with
  | .ok title, .ok data => some ⟨definition, title, data⟩
  | _, _ => none

/-- Whether the title and the data of a node match. -/
def accepts (rule : Rule) (node : Node) : Bool :=
  rule.title.matchesText node.title && rule.data.matchesText node.data

/-- Why a node is rejected; nothing if it is accepted. -/
def rejection (rule : Rule) (node : Node) : Option String :=
  rule.definition.rejection node.title node.data (rule.title.matchesText node.title)
    (rule.data.matchesText node.data)

/-- The rule of a name. -/
def find? (rules : List Rule) (name : String) : Option Rule :=
  rules.find? fun rule => rule.definition.name == name

/-- The rules that are tried for a node, in order: the candidates that are names. -/
def tried (rules : List Rule) (candidates : List Reference) : List Rule :=
  candidates.filterMap fun candidate => candidate.name?.bind (find? rules)

/-- The rules that are tried in vain, and the first one that accepts. -/
def bind (node : Node) : List Rule → List Rule × Option Rule
  | [] => ([], none)
  | rule :: rest =>
    if rule.accepts node then ([], some rule)
    else
      let (rejected, bound) := bind node rest
      (rule :: rejected, bound)

theorem rejection_eq_none_iff {rule : Rule} {node : Node} :
    rule.rejection node = none ↔ rule.accepts node = true := by
  unfold rejection accepts Definition.rejection
  cases rule.title.matchesText node.title <;> cases rule.data.matchesText node.data <;> simp

theorem bind_snd (node : Node) (rules : List Rule) :
    (bind node rules).2 = rules.find? fun rule => rule.accepts node := by
  induction rules with
  | nil => rfl
  | cons rule rest inductionHypothesis =>
    rw [bind, List.find?_cons]
    split
    next accepted => simp [accepted]
    next rejected => simpa [rejected] using inductionHypothesis

end Rule

namespace Schema

/-- The rules of a schema, in declaration order. -/
def rules (schema : Schema) : List Rule :=
  schema.definitions.filterMap Rule.ofDefinition?

end Schema

end TreeSchema
