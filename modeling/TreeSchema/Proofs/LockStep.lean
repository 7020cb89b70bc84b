/-
This file runs two verifications in step. The nodes of two documents are paired one to
one, in such a way that paired nodes have the same texts and their links lead to paired
nodes again. The candidates of two slots may differ, as long as the rules that they
choose for a node have the same texts and lead on to candidates that agree again. Then
the two walks meet paired nodes in the same order and find the same at each of them, so
that their reports differ in nothing but the nodes that the entries point at.

Two kinds of pairs of runs are compared this way later on: a document with a renamed copy
of itself, and a schema with one that allows more. In the second case the candidates
agree only as long as nothing is wrong, so what is asked of the candidates is asked only
where the first walk finds something tolerated.
-/
import Mathlib.Data.List.Forall2
import TreeSchema.Proofs.Binding
import TreeSchema.Proofs.Trail

namespace TreeSchema

/-! ### Paired nodes -/

/-- Two nodes with the same title and the same data. -/
structure Node.SameTexts (node other : Node) : Prop where
  title : other.title = node.title
  data : other.data = node.data

namespace Document

variable {pairs : Nat → Nat → Prop} {document other : Document}

/-- Two links lead nowhere, or to nodes that are paired. -/
inductive LeadsAlike (pairs : Nat → Nat → Prop) (document other : Document)
    (link otherLink : Option Nat) : Prop where
  | nowhere (here : document.follow link = none) (there : other.follow otherLink = none)
  | paired {place otherPlace : Nat} {node otherNode : Node}
      (here : document.follow link = some (place, node))
      (there : other.follow otherLink = some (otherPlace, otherNode))
      (pair : pairs place otherPlace)

/-- The pairing is one to one; paired nodes have the same texts, and their links lead to paired
nodes. -/
structure Paired (pairs : Nat → Nat → Prop) (document other : Document) : Prop where
  unique : ∀ {place otherPlace second otherSecond : Nat}, pairs place otherPlace →
    pairs second otherSecond → (place = second ↔ otherPlace = otherSecond)
  texts : ∀ {place otherPlace : Nat} {node otherNode : Node}, pairs place otherPlace →
    document.node? place = some node → other.node? otherPlace = some otherNode →
    node.SameTexts otherNode
  links : ∀ {place otherPlace : Nat} {node otherNode : Node}, pairs place otherPlace →
    document.node? place = some node → other.node? otherPlace = some otherNode →
    ∀ link, LeadsAlike pairs document other (node.link link) (otherNode.link link)

/-- Of two paired nodes, one was seen exactly if the other one was. -/
theorem Paired.mem_iff (paired : Paired pairs document other) {place otherPlace : Nat}
    (pair : pairs place otherPlace) {seen otherSeen : List Nat}
    (met : List.Forall₂ pairs seen otherSeen) : place ∈ seen ↔ otherPlace ∈ otherSeen := by
  induction met with
  | nil => simp only [List.not_mem_nil]
  | cons first _ inductionHypothesis =>
    rw [List.mem_cons, List.mem_cons, inductionHypothesis, paired.unique pair first]

theorem LeadsAlike.follow_eq_none {link otherLink : Option Nat}
    (alike : LeadsAlike pairs document other link otherLink)
    (nowhere : document.follow link = none) : other.follow otherLink = none := by
  cases alike with
  | nowhere _ there => exact there
  | paired here _ _ =>
    rw [nowhere] at here
    cases here

theorem LeadsAlike.exists_pair {link otherLink : Option Nat} {place : Nat} {node : Node}
    (alike : LeadsAlike pairs document other link otherLink)
    (found : document.follow link = some (place, node)) :
    ∃ otherPlace otherNode, other.follow otherLink = some (otherPlace, otherNode) ∧
      pairs place otherPlace := by
  cases alike with
  | nowhere here _ =>
    rw [found] at here
    cases here
  | paired here there pair =>
    rw [found, Option.some.injEq, Prod.mk.injEq] at here
    obtain ⟨rfl, rfl⟩ := here
    exact ⟨_, _, there, pair⟩

end Document

/-! ### What is alike in two runs -/

/-- Two slots at one path, with candidates that agree and links that lead to paired nodes. -/
structure Slot.Alike (pairs : Nat → Nat → Prop)
    (agree : List Reference → List Reference → Prop) (document other : Document)
    (slot otherSlot : Slot) : Prop where
  link : Document.LeadsAlike pairs document other slot.link otherSlot.link
  candidates : agree slot.candidates otherSlot.candidates
  steps : otherSlot.steps = slot.steps
  index : otherSlot.index = slot.index

/-- Two definitions with one name and the same templates, which lead on to candidates that agree. -/
structure Definition.Alike (agree : List Reference → List Reference → Prop)
    (definition other : Definition) : Prop where
  name : other.name = definition.name
  title : other.title = definition.title
  data : other.data = definition.data
  children : agree definition.children.references other.children.references
  nextSiblings : agree definition.nextSiblings.references other.nextSiblings.references

/-- Two rules of definitions that are alike, with the same templates read. -/
structure Rule.Alike (agree : List Reference → List Reference → Prop) (rule other : Rule) :
    Prop where
  definition : rule.definition.Alike agree other.definition
  title : other.title = rule.title
  data : other.data = rule.data

/-- The same is found, at paired nodes. -/
inductive Finding.Alike (pairs : Nat → Nat → Prop)
    (agree : List Reference → List Reference → Prop) : Finding → Finding → Prop where
  | absent : Alike pairs agree .absent .absent
  | missing : Alike pairs agree .missing .missing
  | repeated {place otherPlace : Nat} {node otherNode : Node} (pair : pairs place otherPlace)
      (texts : node.SameTexts otherNode) :
      Alike pairs agree (.repeated place node) (.repeated otherPlace otherNode)
  | overLimit {place otherPlace : Nat} (pair : pairs place otherPlace) (limit : Limit) :
      Alike pairs agree (.overLimit place limit) (.overLimit otherPlace limit)
  | unidentified {place otherPlace : Nat} {node otherNode : Node}
      {rejected otherRejected : List Rule} (pair : pairs place otherPlace)
      (texts : node.SameTexts otherNode)
      (inVain : List.Forall₂ (Rule.Alike agree) rejected otherRejected) :
      Alike pairs agree (.unidentified place node rejected)
        (.unidentified otherPlace otherNode otherRejected)
  | bound {place otherPlace : Nat} {node otherNode : Node} {rejected otherRejected : List Rule}
      {rule otherRule : Rule} (pair : pairs place otherPlace) (texts : node.SameTexts otherNode)
      (inVain : List.Forall₂ (Rule.Alike agree) rejected otherRejected)
      (binding : rule.Alike agree otherRule) :
      Alike pairs agree (.bound place node rejected rule)
        (.bound otherPlace otherNode otherRejected otherRule)

/-- Whether the entry about a finding lists the candidates. -/
def Finding.listsCandidates : Finding → Bool
  | .missing => true
  | .unidentified _ _ _ => true
  | _ => false

/-- Two visits at one path with the same finding. -/
structure Visit.Alike (pairs : Nat → Nat → Prop)
    (agree : List Reference → List Reference → Prop) (visit other : Visit) : Prop where
  steps : other.slot.steps = visit.slot.steps
  index : other.slot.index = visit.slot.index
  finding : visit.finding.Alike pairs agree other.finding
  candidates : visit.finding.listsCandidates = true →
    other.slot.candidates = visit.slot.candidates

/-- Two entries that say the same about paired nodes. -/
structure Diagnostic.Alike (pairs : Nat → Nat → Prop) (entry other : Diagnostic) : Prop where
  severity : other.severity = entry.severity
  code : other.code = entry.code
  message : other.message = entry.message
  path : other.path = entry.path
  node : Option.Rel pairs entry.node other.node

/-- Two reports that say the same about paired nodes. -/
structure Report.Alike (pairs : Nat → Nat → Prop) (report other : Report) : Prop where
  content : { other with diagnostics := [] } = { report with diagnostics := [] }
  diagnostics : List.Forall₂ (Diagnostic.Alike pairs) report.diagnostics other.diagnostics

section

variable {pairs : Nat → Nat → Prop} {agree : List Reference → List Reference → Prop}

/-! ### Rules -/

theorem Definition.Alike.describe_eq {definition other : Definition}
    (alike : definition.Alike agree other) : other.describe = definition.describe := by
  rw [describe, describe, alike.name, alike.title, alike.data]

namespace Rule

/-- Definitions that are alike have rules that are alike. -/
theorem alike_of_definition {definition other : Definition}
    (alike : definition.Alike agree other) {rule otherRule : Rule}
    (made : ofDefinition? definition = some rule)
    (otherMade : ofDefinition? other = some otherRule) : rule.Alike agree otherRule := by
  obtain ⟨rfl, title, data⟩ := ofDefinition?_eq_some_iff.mp made
  obtain ⟨rfl, otherTitle, otherData⟩ := ofDefinition?_eq_some_iff.mp otherMade
  rw [alike.title, title, Except.ok.injEq] at otherTitle
  rw [alike.data, data, Except.ok.injEq] at otherData
  exact ⟨alike, otherTitle.symm, otherData.symm⟩

theorem Alike.accepts_eq {rule other : Rule} {node otherNode : Node}
    (alike : rule.Alike agree other) (texts : node.SameTexts otherNode) :
    other.accepts otherNode = rule.accepts node := by
  rw [accepts, accepts, alike.title, alike.data, texts.title, texts.data]

theorem Alike.rejection_eq {rule other : Rule} {node otherNode : Node}
    (alike : rule.Alike agree other) (texts : node.SameTexts otherNode) :
    other.rejection otherNode = rule.rejection node := by
  unfold rejection Definition.rejection
  rw [alike.definition.title, alike.definition.data, alike.title, alike.data, texts.title,
    texts.data]

/-- Rules that are alike, tried in the same order, reject and bind alike. -/
theorem bind_alike {node otherNode : Node} (texts : node.SameTexts otherNode)
    {rules others : List Rule} (alike : List.Forall₂ (Rule.Alike agree) rules others) :
    List.Forall₂ (Rule.Alike agree) (bind node rules).1 (bind otherNode others).1 ∧
      Option.Rel (Rule.Alike agree) (bind node rules).2 (bind otherNode others).2 := by
  induction alike with
  | nil => exact ⟨.nil, .none⟩
  | cons first _ inductionHypothesis =>
    rw [bind, bind, first.accepts_eq texts]
    split
    · exact ⟨.nil, .some first⟩
    · exact ⟨.cons first inductionHypothesis.1, inductionHypothesis.2⟩

/-- Rules that are tried after one that binds play no part. -/
theorem bind_append_of_some {node : Node} {rules : List Rule} {rule : Rule}
    (bound : (bind node rules).2 = some rule) (more : List Rule) :
    bind node (rules ++ more) = bind node rules := by
  induction rules with
  | nil => cases bound
  | cons first rest inductionHypothesis =>
    rw [bind] at bound
    rw [List.cons_append, bind, bind]
    split
    · rfl
    next rejects =>
      rw [if_neg rejects] at bound
      rw [inductionHypothesis bound]

end Rule

/-- Where the definitions that the candidates name are alike, so are the rules that are tried. -/
theorem Schema.forall₂_tried {schema other : Schema} {candidates : List Reference}
    (alike : ∀ name, .named name ∈ candidates → ∃ definition otherDefinition,
      schema.find? name = some definition ∧ other.find? name = some otherDefinition ∧
        definition.Alike agree otherDefinition) :
    List.Forall₂ (Rule.Alike agree) (Rule.tried schema.rules candidates)
      (Rule.tried other.rules candidates) := by
  induction candidates with
  | nil => exact .nil
  | cons candidate candidates inductionHypothesis =>
    have later := inductionHypothesis fun name member =>
      alike name (List.mem_cons_of_mem _ member)
    cases candidate with
    | absent => exact later
    | head => exact later
    | named name =>
      obtain ⟨definition, otherDefinition, found, otherFound, definitions⟩ :=
        alike name List.mem_cons_self
      obtain ⟨rule, made, tried⟩ := tried_cons_named found
      obtain ⟨otherRule, otherMade, otherTried⟩ := tried_cons_named otherFound
      rw [tried, otherTried]
      exact .cons (Rule.alike_of_definition definitions made otherMade) later

/-! ### Two walks in step -/

namespace Walk

/-- What is asked of two walks: paired documents, the same limit, and candidates that agree in
what they find, wherever the first walk finds something tolerated. -/
structure InStep (pairs : Nat → Nat → Prop) (agree : List Reference → List Reference → Prop)
    (tolerated : Finding → Prop) (walk other : Walk) : Prop where
  paired : walk.document.Paired pairs other.document
  limit : other.limit = walk.limit
  empty : ∀ {slot otherSlot : Slot}, agree slot.candidates otherSlot.candidates →
    tolerated (emptyFinding slot) → emptyFinding otherSlot = emptyFinding slot ∧
      (emptyFinding slot = .missing → otherSlot.candidates = slot.candidates)
  chosen : ∀ {slot otherSlot : Slot} {place : Nat} {node otherNode : Node},
    agree slot.candidates otherSlot.candidates → node.SameTexts otherNode →
    tolerated (walk.nodeFinding slot place node) →
      List.Forall₂ (Rule.Alike agree) (walk.rejectedRules slot node)
        (other.rejectedRules otherSlot otherNode) ∧
      Option.Rel (Rule.Alike agree) (walk.boundRule slot node)
        (other.boundRule otherSlot otherNode) ∧
      (walk.boundRule slot node = none → otherSlot.candidates = slot.candidates)

variable {tolerated : Finding → Prop} {walk other : Walk}

/-- What is found at paired nodes is alike, and so are the slots that it opens. -/
theorem InStep.counted (inStep : InStep pairs agree tolerated walk other)
    {slot otherSlot : Slot} (slots : slot.Alike pairs agree walk.document other.document otherSlot)
    {place otherPlace : Nat} {node otherNode : Node} (pair : pairs place otherPlace)
    (here : walk.document.node? place = some node)
    (there : other.document.node? otherPlace = some otherNode)
    (fine : tolerated (walk.nodeFinding slot place node)) :
    Visit.Alike pairs agree ⟨slot, walk.nodeFinding slot place node⟩
        ⟨otherSlot, other.nodeFinding otherSlot otherPlace otherNode⟩ ∧
      List.Forall₂ (Slot.Alike pairs agree walk.document other.document)
        (⟨slot, walk.nodeFinding slot place node⟩ : Visit).opened
        (⟨otherSlot, other.nodeFinding otherSlot otherPlace otherNode⟩ : Visit).opened := by
  have texts : node.SameTexts otherNode := inStep.paired.texts pair here there
  have links := inStep.paired.links pair here there
  obtain ⟨inVain, bound, unbound⟩ := inStep.chosen slots.candidates texts fine
  cases chosen : walk.boundRule slot node with
  | none =>
    rw [chosen] at bound
    cases otherChosen : other.boundRule otherSlot otherNode with
    | some rule => rw [otherChosen] at bound; cases bound
    | none =>
      rw [nodeFinding_of_none chosen, nodeFinding_of_none otherChosen]
      exact ⟨⟨slots.steps, slots.index, .unidentified pair texts inVain, fun _ => unbound chosen⟩,
        .nil⟩
  | some rule =>
    rw [chosen] at bound
    cases otherChosen : other.boundRule otherSlot otherNode with
    | none => rw [otherChosen] at bound; cases bound
    | some otherRule =>
      rw [otherChosen] at bound
      cases bound with
      | some binding =>
        rw [opened_of_some chosen, opened_of_some otherChosen, nodeFinding_of_some chosen,
          nodeFinding_of_some otherChosen]
        refine ⟨⟨slots.steps, slots.index, .bound pair texts inVain binding, Bool.noConfusion⟩,
          .cons ?child (.cons ?next .nil)⟩
        case child =>
          refine ⟨links .child, binding.definition.children, ?_, rfl⟩
          rw [Slot.childSlot, Slot.childSlot, binding.definition.name, slots.index, slots.steps]
        case next =>
          refine ⟨links .next, binding.definition.nextSiblings, slots.steps, ?_⟩
          rw [Slot.nextSlot, Slot.nextSlot, slots.index]

/-- The visits of two walks in step are alike, one by one. -/
theorem InStep.forall₂_visits (inStep : InStep pairs agree tolerated walk other)
    {seen : List Nat} {waiting : List Slot}
    (fine : ∀ visit ∈ walk.visits seen waiting, tolerated visit.finding)
    {otherSeen : List Nat} (met : List.Forall₂ pairs seen otherSeen) {otherWaiting : List Slot}
    (slots : List.Forall₂ (Slot.Alike pairs agree walk.document other.document) waiting
      otherWaiting) :
    List.Forall₂ (Visit.Alike pairs agree) (walk.visits seen waiting)
      (other.visits otherSeen otherWaiting) := by
  induction seen, waiting using visits_induction walk generalizing otherSeen otherWaiting with
  | nil seen =>
    cases slots
    rw [visits_nil, visits_nil]
    exact .nil
  | empty seen slot rest nowhere inductionHypothesis =>
    obtain ⟨otherSlot, otherRest, first, others, rfl⟩ := List.forall₂_cons_left_iff.mp slots
    rw [visits_empty nowhere] at fine ⊢
    rw [visits_empty (first.link.follow_eq_none nowhere)]
    rw [List.forall_mem_cons] at fine
    obtain ⟨same, listed⟩ := inStep.empty first.candidates fine.1
    refine .cons ⟨first.steps, first.index, ?_, fun lists => ?_⟩
      (inductionHypothesis fine.2 met others)
    · show (emptyFinding slot).Alike pairs agree (emptyFinding otherSlot)
      rw [same, emptyFinding]
      split
      · exact .absent
      · exact .missing
    · refine listed ?_
      change (emptyFinding slot).listsCandidates = true at lists
      unfold emptyFinding at lists ⊢
      split at lists
      · cases lists
      next forbidden => rw [if_neg forbidden]
  | repeated seen slot rest place node found known inductionHypothesis =>
    obtain ⟨otherSlot, otherRest, first, others, rfl⟩ := List.forall₂_cons_left_iff.mp slots
    obtain ⟨otherPlace, otherNode, there, pair⟩ := first.link.exists_pair found
    have texts : node.SameTexts otherNode := inStep.paired.texts pair
      (Document.follow_eq_some_iff.mp found).2 (Document.follow_eq_some_iff.mp there).2
    rw [visits_repeated found known] at fine ⊢
    rw [visits_repeated there ((inStep.paired.mem_iff pair met).mp known)]
    exact .cons ⟨first.steps, first.index, .repeated pair texts, Bool.noConfusion⟩
      (inductionHypothesis (List.forall_mem_cons.mp fine).2 met others)
  | overLimit seen slot rest place node limit found fresh exceeded =>
    obtain ⟨otherSlot, otherRest, first, _, rfl⟩ := List.forall₂_cons_left_iff.mp slots
    obtain ⟨otherPlace, otherNode, there, pair⟩ := first.link.exists_pair found
    have otherExceeded : other.exceeded? otherSeen.length = some limit := by
      rw [← met.length_eq, exceeded?, inStep.limit]
      exact exceeded
    rw [visits_overLimit found fresh exceeded, visits_overLimit there
      (fun known => fresh ((inStep.paired.mem_iff pair met).mpr known)) otherExceeded]
    exact .cons ⟨first.steps, first.index, .overLimit pair limit, Bool.noConfusion⟩ .nil
  | counted seen slot rest place node found fresh within inductionHypothesis =>
    obtain ⟨otherSlot, otherRest, first, others, rfl⟩ := List.forall₂_cons_left_iff.mp slots
    obtain ⟨otherPlace, otherNode, there, pair⟩ := first.link.exists_pair found
    have otherWithin : other.exceeded? otherSeen.length = none := by
      rw [← met.length_eq, exceeded?, inStep.limit]
      exact within
    rw [visits_counted found fresh within, List.forall_mem_cons] at fine
    rw [visits_counted found fresh within, visits_counted there
      (fun known => fresh ((inStep.paired.mem_iff pair met).mpr known)) otherWithin]
    obtain ⟨visits, opened⟩ := inStep.counted first pair (Document.follow_eq_some_iff.mp found).2
      (Document.follow_eq_some_iff.mp there).2 fine.1
    exact .cons visits (inductionHypothesis fine.2 (.cons pair met)
      (List.rel_append opened others))

end Walk

/-! ### From visits to entries -/

namespace Visit

theorem Alike.path_eq {visit other : Visit} (alike : visit.Alike pairs agree other) :
    other.slot.path = visit.slot.path := by
  rw [Slot.path, Slot.path, alike.steps, alike.index]

theorem Alike.conforms_eq {visit other : Visit} (alike : visit.Alike pairs agree other) :
    other.finding.conforms = visit.finding.conforms := by
  cases visit with | mk slot finding =>
  cases other with | mk otherSlot otherFinding =>
  cases alike.finding <;> rfl

theorem Alike.counts_eq {visit other : Visit} (alike : visit.Alike pairs agree other) :
    other.finding.counts = visit.finding.counts := by
  cases visit with | mk slot finding =>
  cases other with | mk otherSlot otherFinding =>
  cases alike.finding <;> rfl

theorem forall₂_rejectedEntries (trace : Bool) (path : String) {place otherPlace : Nat}
    (pair : pairs place otherPlace) {node otherNode : Node} (texts : node.SameTexts otherNode)
    {rejected otherRejected : List Rule}
    (inVain : List.Forall₂ (Rule.Alike agree) rejected otherRejected) :
    List.Forall₂ (Diagnostic.Alike pairs) (rejectedEntries trace path place node rejected)
      (rejectedEntries trace path otherPlace otherNode otherRejected) := by
  cases trace with
  | false => exact .nil
  | true =>
    refine List.forall₂_map_left_iff.mpr (List.forall₂_map_right_iff.mpr (inVain.imp ?_))
    intro rule other alike
    refine ⟨rfl, rfl, ?_, rfl, .some pair⟩
    rw [rejectedEntry, rejectedEntry, alike.definition.name, alike.rejection_eq texts]

/-- Visits that are alike leave entries that are alike. -/
theorem Alike.entries (trace : Bool) {visit other : Visit}
    (alike : visit.Alike pairs agree other) :
    List.Forall₂ (Diagnostic.Alike pairs) (visit.entries trace) (other.entries trace) := by
  have path := alike.path_eq
  obtain ⟨slot, finding⟩ := visit
  obtain ⟨otherSlot, otherFinding⟩ := other
  obtain ⟨_, _, findings, listed⟩ := alike
  unfold Visit.entries
  dsimp only at path findings listed ⊢
  rw [path]
  cases findings with
  | absent => exact .nil
  | missing =>
    rw [listed rfl]
    exact .cons ⟨rfl, rfl, rfl, rfl, .none⟩ .nil
  | repeated pair texts =>
    refine .cons ⟨rfl, rfl, ?_, rfl, .some pair⟩ .nil
    rw [cyclicEntry, cyclicEntry, texts.title]
  | overLimit pair limit => exact .cons ⟨rfl, rfl, rfl, rfl, .some pair⟩ .nil
  | unidentified pair texts inVain =>
    refine List.rel_append (forall₂_rejectedEntries trace _ pair texts inVain)
      (.cons ⟨rfl, rfl, ?_, rfl, .some pair⟩ .nil)
    rw [unidentifiedEntry, unidentifiedEntry, texts.title, texts.data, listed rfl]
  | bound pair texts inVain binding =>
    refine List.rel_append (forall₂_rejectedEntries trace _ pair texts inVain) ?_
    split
    · refine .cons ⟨rfl, rfl, ?_, rfl, .some pair⟩ .nil
      rw [matchedEntry, matchedEntry, texts.title, texts.data, binding.definition.describe_eq]
    · exact .nil

variable {visits others : List Visit}

theorem allConform_eq (alike : List.Forall₂ (Visit.Alike pairs agree) visits others) :
    allConform others = allConform visits := by
  induction alike with
  | nil => rfl
  | cons first _ inductionHypothesis =>
    rw [allConform, allConform, List.all_cons, List.all_cons, first.conforms_eq]
    exact congrArg _ inductionHypothesis

theorem countNodes_eq (alike : List.Forall₂ (Visit.Alike pairs agree) visits others) :
    countNodes others = countNodes visits := by
  induction alike with
  | nil => rfl
  | cons first _ inductionHypothesis =>
    rw [countNodes, countNodes, List.countP_cons, List.countP_cons, first.counts_eq]
    exact congrArg (· + _) inductionHypothesis

theorem forall₂_allEntries (trace : Bool)
    (alike : List.Forall₂ (Visit.Alike pairs agree) visits others) :
    List.Forall₂ (Diagnostic.Alike pairs) (allEntries trace visits) (allEntries trace others) :=
  List.rel_flatMap alike fun _ _ visit => visit.entries trace

end Visit

/-! ### The whole report -/

/-- Two schemas for the same version: their labels, ordinals and extensions are equal. -/
structure Schema.SameVersion (schema other : Schema) : Prop where
  label : other.label = schema.label
  ordinal : other.ordinal = schema.ordinal
  fileExtension : other.fileExtension = schema.fileExtension

section SameVersion

variable {schema other : Schema} (version : schema.SameVersion other) (catalog : Catalog)
  (filePath : String)

include version

theorem Schema.SameVersion.startEntry_eq :
    Verification.startEntry catalog other filePath =
      Verification.startEntry catalog schema filePath := by
  rw [Verification.startEntry, Verification.startEntry, version.label]

theorem Schema.SameVersion.extensionEntries_eq :
    Verification.extensionEntries other filePath =
      Verification.extensionEntries schema filePath := by
  unfold Verification.extensionEntries Verification.extensionEntry Schema.matchesExtension
  rw [version.fileExtension]

theorem Schema.SameVersion.verdictEntry_eq (ok : Bool) :
    Verification.verdictEntry catalog other filePath ok =
      Verification.verdictEntry catalog schema filePath ok := by
  unfold Verification.verdictEntry
  rw [version.label]

end SameVersion

/-- An entry about no node says the same as itself, whatever is paired. -/
theorem Diagnostic.Alike.self {entry : Diagnostic} (nowhere : entry.node = none) :
    entry.Alike pairs entry := by
  refine ⟨rfl, rfl, rfl, rfl, ?_⟩
  rw [nowhere]
  exact .none

/-- The check of a header knows of the schema only its version, and of the header only its texts. -/
theorem Header.check_alike (trace : Bool) (catalog : Catalog) {schema other : Schema}
    (version : schema.SameVersion other) {document otherDocument : Document}
    (paired : document.Paired pairs otherDocument) {root otherRoot : Option Nat}
    (roots : Document.LeadsAlike pairs document otherDocument root otherRoot) :
    (check trace catalog other (otherDocument.follow otherRoot)).1 =
        (check trace catalog schema (document.follow root)).1 ∧
      List.Forall₂ (Diagnostic.Alike pairs) (check trace catalog schema (document.follow root)).2
        (check trace catalog other (otherDocument.follow otherRoot)).2 := by
  cases roots with
  | nowhere here there =>
    rw [here, there]
    exact ⟨rfl, .cons ⟨rfl, rfl, rfl, rfl, .none⟩ .nil⟩
  | @paired place otherPlace node otherNode here there pair =>
    have texts := paired.texts pair (Document.follow_eq_some_iff.mp here).2
      (Document.follow_eq_some_iff.mp there).2
    have names : namesSchema other otherNode.data = namesSchema schema node.data := by
      rw [namesSchema, namesSchema, texts.data, version.label, version.ordinal]
    have message : versionMessage catalog other otherNode.data =
        versionMessage catalog schema node.data := by
      unfold versionMessage
      rw [texts.data, version.label, version.ordinal]
    rw [here, there, check, check, names, message, titleEntries, titleEntries, texts.title,
      version.label]
    have wrong (message : String) : Diagnostic.Alike pairs (mismatch (some place) message)
        (mismatch (some otherPlace) message) := ⟨rfl, rfl, rfl, rfl, .some pair⟩
    have right (message : String) : Diagnostic.Alike pairs
        ⟨.debug, .nodeMatched, message, Header.path, some place⟩
        ⟨.debug, .nodeMatched, message, Header.path, some otherPlace⟩ :=
      ⟨rfl, rfl, rfl, rfl, .some pair⟩
    by_cases title : node.title = catalog.tag
    · simp only [title, if_true]
      split
      · refine ⟨rfl, ?_⟩
        cases trace with
        | false => exact .nil
        | true => exact .cons (right _) .nil
      · exact ⟨rfl, .cons (wrong _) .nil⟩
    · simp only [title, if_false]
      split
      · exact ⟨rfl, .cons (wrong _) .nil⟩
      · exact ⟨rfl, .cons (wrong _) (.cons (wrong _) .nil)⟩

theorem Document.Paired.leadsAlike_afterHeader {document other : Document}
    (paired : document.Paired pairs other) {root otherRoot : Option Nat}
    (roots : Document.LeadsAlike pairs document other root otherRoot) :
    Document.LeadsAlike pairs document other (document.afterHeader root)
      (other.afterHeader otherRoot) := by
  unfold Document.afterHeader
  cases roots with
  | nowhere here there =>
    rw [here, there]
    exact .nowhere rfl rfl
  | paired here there pair =>
    rw [here, there]
    exact paired.links pair (Document.follow_eq_some_iff.mp here).2
      (Document.follow_eq_some_iff.mp there).2 .next

/-- Verifications in step give reports that are alike. -/
theorem verify_alike (options : Options) (catalog : Catalog) (filePath : String)
    {schema other : Schema} (version : schema.SameVersion other)
    {document otherDocument : Document} {root otherRoot : Option Nat}
    (roots : Document.LeadsAlike pairs document otherDocument root otherRoot)
    {tolerated : Finding → Prop}
    (inStep : Walk.InStep pairs agree tolerated (schema.walk document options.limit)
      (other.walk otherDocument options.limit))
    (heads : agree (schema.headCandidates.map Reference.named)
      (other.headCandidates.map Reference.named))
    (fine : ∀ visit ∈ Verification.visits options schema document root,
      tolerated visit.finding) :
    (verify options catalog schema document root filePath).Alike pairs
      (verify options catalog other otherDocument otherRoot filePath) := by
  have header := Header.check_alike options.trace catalog version inStep.paired roots
  have visits : List.Forall₂ (Visit.Alike pairs agree)
      (Verification.visits options schema document root)
      (Verification.visits options other otherDocument otherRoot) :=
    inStep.forall₂_visits fine .nil
      (.cons ⟨inStep.paired.leadsAlike_afterHeader roots, heads, rfl, rfl⟩ .nil)
  have extension : other.matchesExtension (extensionOf filePath) =
      schema.matchesExtension (extensionOf filePath) := by
    rw [Schema.matchesExtension, Schema.matchesExtension, version.fileExtension]
  have extensionOk : (verify options catalog other otherDocument otherRoot filePath).extensionOk =
      (verify options catalog schema document root filePath).extensionOk := extension
  have headerOk : (verify options catalog other otherDocument otherRoot filePath).headerOk =
      (verify options catalog schema document root filePath).headerOk := header.1
  have nodesOk : (verify options catalog other otherDocument otherRoot filePath).nodesOk =
      (verify options catalog schema document root filePath).nodesOk := Visit.allConform_eq visits
  have ok : (verify options catalog other otherDocument otherRoot filePath).ok =
      (verify options catalog schema document root filePath).ok := by
    rw [ok_verify, ok_verify, extensionOk, headerOk, nodesOk]
  have content : ({ verify options catalog other otherDocument otherRoot filePath with
        diagnostics := [] } : Report) =
      { verify options catalog schema document root filePath with diagnostics := [] } := by
    rw [Report.mk.injEq]
    exact ⟨rfl, rfl, version.label, rfl, ok, extensionOk, headerOk, nodesOk,
      Visit.countNodes_eq visits, rfl⟩
  refine ⟨content, ?_⟩
  rw [diagnostics_verify, diagnostics_verify, Verification.body, Verification.body, ok,
    version.startEntry_eq, version.extensionEntries_eq, version.verdictEntry_eq]
  refine .cons (.self rfl) (List.rel_append (List.rel_append (List.rel_append ?extension header.2)
    (Visit.forall₂_allEntries options.trace visits)) (.cons (.self ?verdict) .nil))
  case extension =>
    unfold Verification.extensionEntries
    split
    · exact .nil
    · exact .cons (.self rfl) .nil
  case verdict =>
    generalize Report.ok _ = conforms
    cases conforms <;> rfl

end

end TreeSchema
