/-
This file says which definition binds a node, without reference to the order in which
anything is computed: the first among the candidates whose two templates match the
title and the data of the node, where a template matches the texts of its language.
The rules of a schema, which hold the templates as they were read, choose exactly this
definition.
-/
import TreeSchema.Proofs.Consistency
import TreeSchema.Template.Language
import TreeSchema.Verification.Rule

namespace TreeSchema

/-- Both templates can be read, and the texts of the node are in their languages. -/
def Definition.Accepts (definition : Definition) (node : Node) : Prop :=
  ∃ title data, Template.read definition.title = .ok title ∧
    Template.read definition.data = .ok data ∧
    Template.Matches [] title node.title.toList ∧ Template.Matches [] data node.data.toList

/-- Once the templates are read, a definition accepts the nodes whose texts are in their
languages. -/
theorem Definition.accepts_iff_of_read {definition : Definition} {title data : Template}
    (titleRead : Template.read definition.title = .ok title)
    (dataRead : Template.read definition.data = .ok data) {node : Node} :
    definition.Accepts node ↔
      Template.Matches [] title node.title.toList ∧ Template.Matches [] data node.data.toList := by
  constructor
  · rintro ⟨_, _, otherTitle, otherData, titleMatches, dataMatches⟩
    cases titleRead.symm.trans otherTitle
    cases dataRead.symm.trans otherData
    exact ⟨titleMatches, dataMatches⟩
  · rintro ⟨titleMatches, dataMatches⟩
    exact ⟨title, data, titleRead, dataRead, titleMatches, dataMatches⟩

/-- The definition is named among the candidates and accepts the node, and no definition named
before it does. -/
def Schema.Binds (schema : Schema) (candidates : List Reference) (node : Node)
    (definition : Definition) : Prop :=
  ∃ before name after, candidates = before ++ .named name :: after ∧
    schema.find? name = some definition ∧ definition.Accepts node ∧
    ∀ earlier other, .named earlier ∈ before → schema.find? earlier = some other →
      ¬ other.Accepts node

namespace Rule

/-! ### The rule of a definition -/

theorem ofDefinition?_eq_some_iff {definition : Definition} {rule : Rule} :
    ofDefinition? definition = some rule ↔
      rule.definition = definition ∧ Template.read definition.title = .ok rule.title ∧
        Template.read definition.data = .ok rule.data := by
  unfold ofDefinition?
  split
  next title data titleRead dataRead =>
    rw [titleRead, dataRead, Option.some.injEq]
    constructor
    · intro same
      rw [← same]
      exact ⟨rfl, rfl, rfl⟩
    · intro same
      obtain ⟨rfl, sameTitle, sameData⟩ := same
      cases sameTitle
      cases sameData
      rfl
  next unread =>
    constructor
    · intro impossible
      cases impossible
    · intro read
      obtain ⟨_, titleRead, dataRead⟩ := read
      exact absurd dataRead (unread _ _ titleRead)

theorem accepts_iff {definition : Definition} {rule : Rule}
    (made : ofDefinition? definition = some rule) {node : Node} :
    rule.accepts node = true ↔ definition.Accepts node := by
  obtain ⟨_, titleRead, dataRead⟩ := ofDefinition?_eq_some_iff.mp made
  rw [accepts, Bool.and_eq_true, Template.matchesText, Template.matchesText,
    Template.matchesList_iff, Template.matchesList_iff]
  constructor
  · intro both
    exact ⟨rule.title, rule.data, titleRead, dataRead, both.1, both.2⟩
  · intro accepts
    obtain ⟨title, data, titleSame, dataSame, titleMatches, dataMatches⟩ := accepts
    rw [titleRead, Except.ok.injEq] at titleSame
    rw [dataRead, Except.ok.injEq] at dataSame
    subst titleSame dataSame
    exact ⟨titleMatches, dataMatches⟩

/-- The comparison that reads the templates, the one for the data only where the title matches, comes
to the same as the rule. -/
theorem matchesNode_eq_ok {definition : Definition} {rule : Rule}
    (made : ofDefinition? definition = some rule) (node : Node) :
    definition.matchesNode node.title node.data = .ok (rule.accepts node) := by
  obtain ⟨_, titleRead, dataRead⟩ := ofDefinition?_eq_some_iff.mp made
  unfold Definition.matchesNode accepts
  rw [titleRead, dataRead]
  cases matched : rule.title.matchesText node.title with
  | true => simp [Bind.bind, Except.bind, pure, Except.pure, matched]
  | false => simp [Bind.bind, Except.bind, pure, Except.pure, matched]

/-- The comparison that reads both templates gives the reason that the rule gives. -/
theorem mismatch_eq_ok {definition : Definition} {rule : Rule}
    (made : ofDefinition? definition = some rule) (node : Node) :
    definition.mismatch node.title node.data = .ok (rule.rejection node) := by
  obtain ⟨same, titleRead, dataRead⟩ := ofDefinition?_eq_some_iff.mp made
  unfold Definition.mismatch rejection
  rw [titleRead, dataRead, same]
  rfl

/-! ### The rules of a list of definitions -/

/-- Where every definition has a rule, the rule of a name is the rule of the definition of that
name. -/
theorem find?_filterMap {definitions : List Definition}
    (readable : ∀ definition ∈ definitions, ∃ rule, ofDefinition? definition = some rule)
    (name : String) :
    find? (definitions.filterMap ofDefinition?) name =
      (definitions.find? fun definition => definition.name == name).bind ofDefinition? := by
  induction definitions with
  | nil => rfl
  | cons definition rest inductionHypothesis =>
    obtain ⟨rule, made⟩ := readable definition List.mem_cons_self
    have same : rule.definition = definition := (ofDefinition?_eq_some_iff.mp made).1
    have restHypothesis := inductionHypothesis fun other member =>
      readable other (List.mem_cons_of_mem _ member)
    rw [find?] at restHypothesis ⊢
    rw [List.filterMap_cons_some made, List.find?_cons, List.find?_cons, same]
    cases definition.name == name with
    | true => exact made.symm
    | false => exact restHypothesis

end Rule

namespace Schema

theorem exists_rule (schema : Schema) {definition : Definition}
    (member : definition ∈ schema.definitions) :
    ∃ rule, Rule.ofDefinition? definition = some rule := by
  obtain ⟨title, titleRead⟩ := schema.exists_title member
  obtain ⟨data, dataRead⟩ := schema.exists_data member
  exact ⟨⟨definition, title, data⟩,
    Rule.ofDefinition?_eq_some_iff.mpr ⟨rfl, titleRead, dataRead⟩⟩

/-- The rule that a schema has under a name. -/
theorem find?_rules (schema : Schema) (name : String) :
    Rule.find? schema.rules name = (schema.find? name).bind Rule.ofDefinition? :=
  Rule.find?_filterMap (fun _ member => schema.exists_rule member) name

/-! ### The rules that are tried -/

theorem tried_cons_named {schema : Schema} {name : String} {definition : Definition}
    (found : schema.find? name = some definition) :
    ∃ rule, Rule.ofDefinition? definition = some rule ∧ ∀ candidates,
      Rule.tried schema.rules (.named name :: candidates) =
        rule :: Rule.tried schema.rules candidates := by
  obtain ⟨rule, made⟩ := schema.exists_rule (mem_of_find? found).1
  refine ⟨rule, made, fun candidates => ?_⟩
  refine List.filterMap_cons_some ?_
  rw [Reference.name?, Option.bind_some, find?_rules, found, Option.bind_some, made]

theorem tried_cons_unnamed {schema : Schema} {candidate : Reference}
    (unnamed : ∀ name, candidate = .named name → schema.find? name = none)
    (candidates : List Reference) :
    Rule.tried schema.rules (candidate :: candidates) = Rule.tried schema.rules candidates := by
  refine List.filterMap_cons_none ?_
  cases candidate with
  | absent => rfl
  | head => rfl
  | named name => rw [Reference.name?, Option.bind_some, find?_rules, unnamed name rfl]; rfl

/-! ### The first that accepts -/

theorem not_binds_nil {schema : Schema} {node : Node} {definition : Definition} :
    ¬ schema.Binds [] node definition := by
  intro binds
  obtain ⟨before, name, after, split, _⟩ := binds
  exact absurd split.symm (List.append_ne_nil_of_right_ne_nil _ (List.cons_ne_nil _ _))

/-- The first candidate binds, or it does not accept and a later one binds. -/
theorem binds_cons {schema : Schema} {candidate : Reference} {candidates : List Reference}
    {node : Node} {definition : Definition} :
    schema.Binds (candidate :: candidates) node definition ↔
      (∃ name, candidate = .named name ∧ schema.find? name = some definition ∧
        definition.Accepts node) ∨
      ((∀ name other, candidate = .named name → schema.find? name = some other →
        ¬ other.Accepts node) ∧ schema.Binds candidates node definition) := by
  constructor
  · intro binds
    obtain ⟨before, name, after, split, found, accepts, first⟩ := binds
    cases before with
    | nil =>
      obtain ⟨rfl, rfl⟩ := List.cons.inj split
      exact Or.inl ⟨name, rfl, found, accepts⟩
    | cons earlier before =>
      obtain ⟨rfl, rfl⟩ := List.cons.inj split
      refine Or.inr ⟨?_, before, name, after, rfl, found, accepts, ?_⟩
      · intro other definition same
        exact first other definition (same ▸ List.mem_cons_self)
      · intro other definition member
        exact first other definition (List.mem_cons_of_mem _ member)
  · intro either
    rcases either with ⟨name, rfl, found, accepts⟩ | ⟨refused, binds⟩
    · exact ⟨[], name, candidates, rfl, found, accepts, fun _ _ member => by cases member⟩
    · obtain ⟨before, name, after, rfl, found, accepts, first⟩ := binds
      refine ⟨candidate :: before, name, after, rfl, found, accepts, ?_⟩
      intro earlier other member
      rcases List.mem_cons.mp member with same | inBefore
      · exact refused earlier other same.symm
      · exact first earlier other inBefore

/-- A candidate that accepts binds, whatever comes after it. -/
theorem binds_cons_of_accepts {schema : Schema} {name : String} {candidates : List Reference}
    {node : Node} {first definition : Definition} (found : schema.find? name = some first)
    (accepts : first.Accepts node) :
    schema.Binds (.named name :: candidates) node definition ↔ first = definition := by
  rw [binds_cons]
  constructor
  · intro either
    rcases either with ⟨_, same, foundName, _⟩ | ⟨refused, _⟩
    · cases same
      rw [found, Option.some.injEq] at foundName
      exact foundName
    · exact absurd accepts (refused name first rfl found)
  · intro same
    rw [← same]
    exact Or.inl ⟨name, rfl, found, accepts⟩

/-- A candidate that names no definition, or one that does not accept, is passed over. -/
theorem binds_cons_of_refuses {schema : Schema} {candidate : Reference}
    {candidates : List Reference} {node : Node} {definition : Definition}
    (refuses : ∀ name other, candidate = .named name → schema.find? name = some other →
      ¬ other.Accepts node) :
    schema.Binds (candidate :: candidates) node definition ↔
      schema.Binds candidates node definition := by
  rw [binds_cons]
  constructor
  · intro either
    rcases either with ⟨name, same, found, accepts⟩ | ⟨_, binds⟩
    · exact absurd accepts (refuses name definition same found)
    · exact binds
  · intro binds
    exact Or.inr ⟨refuses, binds⟩

/-- Where the candidates have no other name, the definition of the name binds what it accepts. -/
theorem binds_cons_iff_of_only {schema : Schema} {name : String} {candidates : List Reference}
    {node : Node} {first definition : Definition} (found : schema.find? name = some first)
    (only : ∀ other, .named other ∈ candidates → other = name) :
    schema.Binds (.named name :: candidates) node definition ↔
      first.Accepts node ∧ first = definition := by
  by_cases accepts : first.Accepts node
  · rw [binds_cons_of_accepts found accepts, and_iff_right accepts]
  · refine iff_of_false (fun binds => accepts ?_) fun both => accepts both.1
    rcases binds_cons.mp binds with ⟨_, same, foundName, acceptsName⟩ | ⟨_, later⟩
    · cases same
      cases found.symm.trans foundName
      exact acceptsName
    · obtain ⟨before, other, after, rfl, foundOther, acceptsOther, _⟩ := later
      cases only other (List.mem_append_right _ List.mem_cons_self)
      cases found.symm.trans foundOther
      exact acceptsOther

/-- The rules bind the definition that is the first to accept. -/
theorem bind_tried_iff {schema : Schema} {candidates : List Reference} {node : Node}
    {definition : Definition} :
    (∃ rule, (Rule.bind node (Rule.tried schema.rules candidates)).2 = some rule ∧
      rule.definition = definition) ↔ schema.Binds candidates node definition := by
  rw [Rule.bind_snd]
  induction candidates with
  | nil =>
    refine iff_of_false ?_ not_binds_nil
    intro bound
    obtain ⟨rule, found, _⟩ := bound
    cases found
  | cons candidate candidates inductionHypothesis =>
    by_cases defined : ∃ name other, candidate = .named name ∧ schema.find? name = some other
    · obtain ⟨name, other, rfl, found⟩ := defined
      obtain ⟨rule, made, tried⟩ := tried_cons_named found
      have same : rule.definition = other := (Rule.ofDefinition?_eq_some_iff.mp made).1
      simp only [tried, List.find?_cons]
      cases accepted : rule.accepts node with
      | true =>
        rw [binds_cons_of_accepts found ((Rule.accepts_iff made).mp accepted), ← same]
        simp
      | false =>
        rw [inductionHypothesis, binds_cons_of_refuses]
        intro _ first equal foundName
        cases equal
        rw [found, Option.some.injEq] at foundName
        rw [← foundName, ← Rule.accepts_iff made, accepted]
        exact Bool.false_ne_true
    · have undefined (name : String) (other : Definition) (same : candidate = .named name) :
          schema.find? name ≠ some other :=
        fun found => defined ⟨name, other, same, found⟩
      rw [tried_cons_unnamed, inductionHypothesis, binds_cons_of_refuses]
      · intro name other same found
        exact absurd found (undefined name other same)
      · intro name same
        exact Option.eq_none_iff_forall_ne_some.mpr fun other => undefined name other same

end Schema

end TreeSchema
