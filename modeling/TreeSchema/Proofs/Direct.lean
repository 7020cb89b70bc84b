/-
This file proves what comes of a direct verification. Every candidate that the walk comes
to is a mark or the name of a definition, because the candidates after the header are names
of definitions and the neighbours of a definition resolve; every definition of a schema has
templates that can be read; no entry has a severity that the log refuses; and a text that
is no number is an answer where a header is read. Step by step, the direct verification then
does what the prepared one does, until it comes to an obstacle: an ordinal in the header, or
the limit, that has no text. So its report is that of the prepared verification in all its
parts, unless an obstacle is found on the way.
-/
import TreeSchema.Proofs.Binding
import TreeSchema.Proofs.Steps
import TreeSchema.Proofs.TreeWalk
import TreeSchema.Proofs.Visits
import TreeSchema.Verification.Direct

namespace TreeSchema

/-! ### Logs -/

/-- A log with more entries at its end. -/
def Log.extend (log : Log) (entries : List Diagnostic) : Log :=
  { log with entries := log.entries ++ entries }

theorem Log.extend_nil (log : Log) : log.extend [] = log := by
  rw [extend, List.append_nil]

theorem Log.extend_extend (log : Log) (first second : List Diagnostic) :
    (log.extend first).extend second = log.extend (first ++ second) := by
  rw [extend, extend, extend, List.append_assoc]

theorem Log.entries_extend_empty (trace : Bool) (entries : List Diagnostic) :
    ((Log.empty trace).extend entries).entries = entries :=
  List.nil_append entries

theorem Log.extend_trace (log : Log) (entries : List Diagnostic) :
    (log.extend entries).trace = log.trace := rfl

namespace Direct

/-- A result, unless something breaks the verification off before it is there. -/
def settle {Result : Type} (obstacle : Option Obstacle) (result : Result) :
    Except Failure Result :=
  match obstacle with
  | none => .ok result
  | some obstacle => .error (.blocked obstacle)

theorem settle_eq_ok_iff {Result : Type} {obstacle : Option Obstacle} {result value : Result} :
    settle obstacle result = .ok value ↔ obstacle = none ∧ result = value := by
  cases obstacle with
  | none => rw [settle, Except.ok.injEq, eq_self, true_and]
  | some found => exact iff_of_false nofun fun both => nomatch both.1

/-- An entry that is not of severity debug is kept. -/
theorem record_kept {entry : Diagnostic}
    (severity : entry.severity = .error ∨ entry.severity = .warning ∨ entry.severity = .info)
    (log : Log) : record log entry = .ok (log.extend [entry]) := by
  unfold record Log.add
  rcases severity with severity | severity | severity <;> rw [severity] <;> rfl

/-- An entry of severity debug is kept while tracing. -/
theorem record_debug {entry : Diagnostic} (severity : entry.severity = .debug) (log : Log) :
    record log entry = .ok (log.extend (if log.trace then [entry] else [])) := by
  unfold record Log.add
  rw [severity]
  by_cases traced : log.trace = true
  · rw [if_pos traced, if_pos traced]
    rfl
  · rw [if_neg traced, if_neg traced, Log.extend_nil]
    rfl

/-! ### Definitions and their templates -/

theorem definitionOf_eq_ok {schema : Schema} {name : String} {definition : Definition}
    (found : schema.find? name = some definition) :
    definitionOf schema name = .ok definition := by
  rw [definitionOf, found]

theorem accepts_eq_ok {definition : Definition} {rule : Rule}
    (made : Rule.ofDefinition? definition = some rule) (node : Node) :
    accepts definition node = .ok (rule.accepts node) := by
  rw [accepts, Rule.matchesNode_eq_ok made]
  rfl

theorem rejection_eq_ok {definition : Definition} {rule : Rule}
    (made : Rule.ofDefinition? definition = some rule) (node : Node) :
    rejection definition node = .ok (rule.rejection node) := by
  rw [rejection, Rule.mismatch_eq_ok made]
  rfl

/-- The entry about a rule that rejects a node says why. -/
theorem rejectedEntry_eq {rule : Rule} {node : Node} (rejected : rule.accepts node = false)
    (path : String) (place : Nat) :
    rejectedEntry path place rule.definition.name (rule.rejection node) =
      Visit.rejectedEntry path place node rule := by
  cases reason : rule.rejection node with
  | none =>
    rw [Rule.rejection_eq_none_iff, rejected] at reason
    cases reason
  | some text =>
    rw [rejectedEntry, Visit.rejectedEntry, reason]
    rfl

/-- Candidates that resolve are compared with a node without fail: the outcome is that of the rules,
and the log has the entries about the rules that were tried in vain. -/
theorem choose_eq_ok {schema : Schema} {path : String} {place : Nat} {node : Node}
    {candidates : List Reference} (resolves : schema.Resolves candidates) (log : Log) :
    choose schema path place node candidates log =
      .ok ((Rule.bind node (Rule.tried schema.rules candidates)).2.map Rule.definition,
        log.extend (Visit.rejectedEntries log.trace path place node
          (Rule.bind node (Rule.tried schema.rules candidates)).1)) := by
  induction candidates generalizing log with
  | nil =>
    rw [choose, Visit.rejectedEntries]
    simp [Rule.tried, Rule.bind, Log.extend_nil]
  | cons candidate candidates inductionHypothesis =>
    cases candidate with
    | absent => rw [choose, inductionHypothesis resolves.tail]; rfl
    | head => rw [choose, inductionHypothesis resolves.tail]; rfl
    | named name =>
      obtain ⟨definition, found⟩ := resolves name List.mem_cons_self
      obtain ⟨rule, made, tried⟩ := Schema.tried_cons_named found
      have same : rule.definition = definition := (Rule.ofDefinition?_eq_some_iff.mp made).1
      have named : rule.definition.name = name := by rw [same, (Schema.mem_of_find? found).2]
      rw [choose, definitionOf_eq_ok found, ok_bind, accepts_eq_ok made, ok_bind, tried, Rule.bind]
      cases accepted : rule.accepts node with
      | true =>
        rw [if_pos rfl, if_pos rfl, ← same]
        simp [Visit.rejectedEntries, Log.extend_nil, pure, Except.pure]
      | false =>
        rw [if_neg Bool.false_ne_true, if_neg Bool.false_ne_true]
        cases traced : log.trace with
        | true =>
          rw [if_pos rfl, rejection_eq_ok made, ok_bind, ← named, rejectedEntry_eq accepted,
            record_debug rfl, ok_bind, traced, if_pos rfl, inductionHypothesis resolves.tail,
            Log.extend_extend, Log.extend_trace, traced]
          rfl
        | false =>
          rw [if_neg Bool.false_ne_true, inductionHypothesis resolves.tail, traced]
          rfl

/-! ### The header -/

/-- A text that is no number breaks nothing off. -/
theorem declared_eq_ok (catalog : Catalog) (data : String) :
    declared catalog data = .ok (catalog.declared? data) := by
  unfold declared Catalog.declared?
  dsimp only
  cases catalog.find? (Text.strip data) with
  | some schema => rfl
  | none =>
    rw [Value.toWhole, Whole.ofText?]
    cases Whole.ofText (Text.strip data) with
    | ok ordinal => rfl
    | error fault => cases fault <;> rfl

theorem digitsOf_eq_ok {value : Int} (short : Whole.IsShort value) :
    digitsOf value = .ok (toString value) := by
  rw [digitsOf, Whole.text?_eq_some_iff.mpr ⟨short, rfl⟩]

theorem digitsOf_eq_error {value : Int} (long : ¬ Whole.IsShort value) :
    digitsOf value = .error (.blocked .unwritable) := by
  rw [digitsOf, Whole.text?_eq_none_iff.mpr long]

/-- The ordinal is not written for data that is the label. -/
theorem names_eq_ok {schema : Schema} {data : String}
    (writable : data = schema.label ∨ Whole.IsShort schema.ordinal) :
    names schema data = .ok (Header.namesSchema schema data) := by
  rw [names, Header.namesSchema]
  by_cases label : data = schema.label
  · rw [if_pos label, beq_iff_eq.mpr label, Bool.true_or]
  · have short := writable.resolve_left label
    rw [if_neg label, digitsOf_eq_ok short, ok_bind, Whole.text?_eq_some_iff.mpr ⟨short, rfl⟩,
      beq_eq_false_iff_ne.mpr label, Bool.false_or, Option.some_beq_some, Bool.beq_comm]
    rfl

/-- Of another version, the ordinal is written as well. -/
theorem versionMessage_eq {schema : Schema} (short : Whole.IsShort schema.ordinal)
    (catalog : Catalog) (data : String) :
    versionMessage schema data (catalog.declared? data) =
      settle (Header.otherObstacle? catalog schema data)
        (Header.versionMessage catalog schema data) := by
  unfold versionMessage Header.versionMessage Header.otherObstacle?
  cases catalog.declared? data with
  | none => rfl
  | some other =>
    by_cases same : other.ordinal = schema.ordinal
    · rw [Option.filter_some, if_neg (by simp [same])]
      simp only [if_pos same, if_pos (Or.inl same)]
      rfl
    · rw [Option.filter_some, if_pos (by simp [same])]
      by_cases otherShort : Whole.IsShort other.ordinal
      · simp only [if_neg same, if_pos (Or.inr otherShort), digitsOf_eq_ok otherShort,
          digitsOf_eq_ok short, ok_bind, Whole.written,
          Whole.text?_eq_some_iff.mpr ⟨otherShort, rfl⟩, Whole.text?_eq_some_iff.mpr ⟨short, rfl⟩]
        rfl
      · simp only [if_neg (not_or.mpr ⟨same, otherShort⟩), digitsOf_eq_error otherShort]
        rfl

theorem checkTitle_eq_ok (catalog : Catalog) (place : Nat) (node : Node) (log : Log) :
    checkTitle catalog place node log =
      .ok (log.extend (Header.titleEntries catalog place node)) := by
  unfold checkTitle Header.titleEntries
  by_cases title : node.title = catalog.tag
  · rw [if_pos title, if_pos title, Log.extend_nil]
  · rw [if_neg title, if_neg title, record_kept (Or.inl rfl)]

/-- A header is checked with the verdict and the entries of the prepared check, unless an ordinal
cannot be written. -/
theorem checkHeader_eq (catalog : Catalog) (schema : Schema) (header : Option (Nat × Node))
    (log : Log) :
    checkHeader catalog schema header log =
      settle (Header.obstacle? catalog schema header)
        ((Header.check log.trace catalog schema header).1,
          log.extend (Header.check log.trace catalog schema header).2) := by
  cases header with
  | none =>
    rw [checkHeader, record_kept (Or.inl rfl)]
    rfl
  | some found =>
    obtain ⟨place, node⟩ := found
    rw [checkHeader, checkTitle_eq_ok, ok_bind, Header.check, Header.obstacle?]
    by_cases writable : node.data = schema.label ∨ Whole.IsShort schema.ordinal
    · rw [names_eq_ok writable, ok_bind]
      cases named : Header.namesSchema schema node.data with
      | false =>
        have label : node.data ≠ schema.label := by
          intro same
          rw [Header.namesSchema, beq_iff_eq.mpr same] at named
          cases named
        have short := writable.resolve_left label
        rw [if_neg Bool.false_ne_true, if_neg label, if_neg (not_not_intro short),
          if_neg Bool.false_ne_true, declared_eq_ok, ok_bind, versionMessage_eq short]
        cases Header.otherObstacle? catalog schema node.data with
        | some obstacle => rfl
        | none =>
          rw [settle, ok_bind, record_kept (Or.inl rfl), ok_bind, Log.extend_extend]
          rfl
      | true =>
        have unobstructed : (if node.data = schema.label then none
            else if ¬ Whole.IsShort schema.ordinal then some Obstacle.unwritable
            else if true = true then none
            else Header.otherObstacle? catalog schema node.data) = none := by
          by_cases label : node.data = schema.label
          · exact if_pos label
          · rw [if_neg label, if_neg (not_not_intro (writable.resolve_left label)), if_pos rfl]
        rw [unobstructed, if_pos rfl]
        by_cases title : node.title = catalog.tag
        · have titles : Header.titleEntries catalog place node = [] := if_pos title
          rw [if_pos title, titles, Log.extend_nil, record_debug rfl, ok_bind]
          rfl
        · have titles : (Header.titleEntries catalog place node).isEmpty = false := by
            rw [Header.titleEntries, if_neg title]
            rfl
          rw [if_neg title, titles]
          simp [pure, Except.pure, settle]
    · obtain ⟨label, long⟩ := not_or.mp writable
      rw [names, if_neg label, digitsOf_eq_error long, if_neg label, if_pos long]
      rfl

/-! ### The nodes -/

/-- What a walk has come to after more visits. -/
def Outcome.after (outcome : Outcome) (visits : List Visit) : Outcome :=
  ⟨outcome.ok && Visit.allConform visits, outcome.counted + Visit.countNodes visits,
    outcome.log.extend (Visit.allEntries outcome.log.trace visits)⟩

theorem Outcome.after_nil (outcome : Outcome) : outcome.after [] = outcome := by
  simp [after, Visit.allConform, Visit.countNodes, Visit.allEntries, Log.extend_nil]

theorem Outcome.after_append (outcome : Outcome) (first second : List Visit) :
    outcome.after (first ++ second) = (outcome.after first).after second := by
  simp only [after, Visit.allConform_append, Visit.countNodes_append, Visit.allEntries_append,
    Log.extend_extend, Log.extend_trace, Bool.and_assoc, Nat.add_assoc]

theorem Outcome.after_cons (outcome : Outcome) (visit : Visit) (visits : List Visit) :
    outcome.after (visit :: visits) = (outcome.after [visit]).after visits :=
  after_append outcome [visit] visits

/-- Nothing follows from a slot that is rightly empty. -/
theorem Outcome.after_absent (outcome : Outcome) (slot : Slot) :
    outcome.after [⟨slot, .absent⟩] = outcome := by
  simp [after, Visit.allConform, Visit.countNodes, Visit.allEntries, Visit.entries,
    Finding.conforms, Finding.counts, Log.extend_nil]

/-- A failure in which no node is counted clears the verdict and is reported by one entry. -/
theorem Outcome.after_failure {outcome : Outcome} {visit : Visit} {entry : Diagnostic}
    (conforms : visit.finding.conforms = false) (counts : visit.finding.counts = false)
    (entries : visit.entries outcome.log.trace = [entry]) :
    outcome.after [visit] = ⟨false, outcome.counted, outcome.log.extend [entry]⟩ := by
  simp [after, Visit.allConform, Visit.countNodes, Visit.allEntries, conforms, counts, entries]

/-- A node that no candidate accepts is counted and clears the verdict. -/
theorem Outcome.after_unidentified (outcome : Outcome) (slot : Slot) (place : Nat) (node : Node)
    (rejected : List Rule) :
    outcome.after [⟨slot, .unidentified place node rejected⟩] =
      ⟨false, outcome.counted + 1,
        (outcome.log.extend
            (Visit.rejectedEntries outcome.log.trace slot.path place node rejected)).extend
          [Visit.unidentifiedEntry slot.path place node slot.candidates]⟩ := by
  rw [Log.extend_extend]
  simp [after, Visit.allConform, Visit.countNodes, Visit.allEntries, Visit.entries,
    Finding.conforms, Finding.counts]

/-- A node that is bound is counted and keeps the verdict. -/
theorem Outcome.after_bound (outcome : Outcome) (slot : Slot) (place : Nat) (node : Node)
    (rejected : List Rule) (rule : Rule) :
    outcome.after [⟨slot, .bound place node rejected rule⟩] =
      ⟨outcome.ok, outcome.counted + 1,
        (outcome.log.extend
            (Visit.rejectedEntries outcome.log.trace slot.path place node rejected)).extend
          (if outcome.log.trace then [Visit.matchedEntry slot.path place node rule.definition]
            else [])⟩ := by
  rw [Log.extend_extend]
  simp [after, Visit.allConform, Visit.countNodes, Visit.allEntries, Visit.entries,
    Finding.conforms, Finding.counts]

/-- The candidates for the nodes around a bound node resolve. -/
theorem resolves_of_boundRule {schema : Schema} {document : Document} {limit : Option Limit}
    {slot : Slot} {node : Node} {rule : Rule}
    (bound : (schema.walk document limit).boundRule slot node = some rule)
    (relation : Relation) : schema.Resolves (rule.definition.neighbours relation).references := by
  obtain ⟨_, name, _, _, found, _⟩ := Schema.bind_tried_iff.mp ⟨rule, bound, rfl⟩
  exact schema.resolves_neighbours (Schema.mem_of_find? found).1 relation

/-- A visit in which nothing breaks off leaves this to the others. -/
theorem obstacle?_cons {visit : Visit} (passed : visit.finding.obstacle? = none)
    (visits : List Visit) : Visit.obstacle? (visit :: visits) = Visit.obstacle? visits := by
  rw [Visit.obstacle?, List.findSome?_cons, passed]
  rfl

/-- The walk ends at the limit with an entry that shows it, unless the limit has no text. -/
theorem stop_eq (limit : Limit) (outcome : Outcome) (slot : Slot) (place : Nat) :
    (limit.text.mapError Failure.blocked >>= fun shown =>
      record outcome.log (Visit.stopEntry slot.path place shown) >>= fun log =>
        .ok { outcome with ok := false, log }) =
      settle (Visit.obstacle? [⟨slot, .overLimit place limit⟩])
        (outcome.after [⟨slot, .overLimit place limit⟩]) := by
  rw [Outcome.after_failure rfl rfl rfl]
  have obstacle : Visit.obstacle? [⟨slot, .overLimit place limit⟩] = limit.obstacle? := by
    rw [Visit.obstacle?, List.findSome?_singleton]
    rfl
  rw [obstacle, Visit.limitEntry, Limit.label, Limit.obstacle?]
  cases limit.text with
  | ok text =>
    have kept : record outcome.log (Visit.stopEntry slot.path place text) = _ :=
      record_kept (Or.inl rfl) outcome.log
    rw [Except.mapError, ok_bind, kept]
    rfl
  | error obstacle => rfl

/-- Over slots whose candidates resolve, the outcome of the walk adds up what the prepared walk finds
in them, unless this breaks off at the limit. -/
theorem walk_eq {schema : Schema} {document : Document} {limit : Option Limit}
    (seen : List Nat) (waiting : List Slot)
    (resolve : ∀ slot ∈ waiting, schema.Resolves slot.candidates) {outcome : Outcome}
    (count : outcome.counted = seen.length) :
    walk schema document limit outcome seen waiting =
      settle (Visit.obstacle? ((schema.walk document limit).visits seen waiting))
        (outcome.after ((schema.walk document limit).visits seen waiting)) := by
  induction seen, waiting using Walk.visits_induction (schema.walk document limit)
    generalizing outcome with
  | nil seen =>
    rw [walk_nil, Walk.visits_nil, Outcome.after_nil]
    rfl
  | empty seen slot rest nowhere inductionHypothesis =>
    have leads : document.follow slot.link = none := nowhere
    rw [List.forall_mem_cons] at resolve
    rw [Walk.visits_empty nowhere, Outcome.after_cons]
    by_cases allowed : .absent ∈ slot.candidates
    · have finding : Walk.emptyFinding slot = .absent := if_pos allowed
      rw [walk_allowed leads allowed, finding, obstacle?_cons rfl, Outcome.after_absent]
      exact inductionHypothesis resolve.2 count
    · have finding : Walk.emptyFinding slot = .missing := if_neg allowed
      rw [walk_missing leads allowed, finding, record_kept (Or.inl rfl), ok_bind,
        obstacle?_cons rfl, Outcome.after_failure rfl rfl rfl]
      exact inductionHypothesis resolve.2 count
  | repeated seen slot rest place node found known inductionHypothesis =>
    have leads : document.follow slot.link = some (place, node) := found
    rw [List.forall_mem_cons] at resolve
    rw [Walk.visits_repeated found known, Outcome.after_cons, walk_repeated leads known,
      record_kept (Or.inl rfl), ok_bind, obstacle?_cons rfl, Outcome.after_failure rfl rfl rfl]
    exact inductionHypothesis resolve.2 count
  | overLimit seen slot rest place node exceeded found fresh beyond =>
    have leads : document.follow slot.link = some (place, node) := found
    -- as many nodes were counted as were seen, so both walks stop at the same node
    have above : (limit.filter fun limit => limit.bound < (outcome.counted : Int) + 1) =
        some exceeded := by
      rw [count]
      exact beyond
    rw [Walk.visits_overLimit found fresh beyond, walk_overLimit leads fresh above]
    exact stop_eq exceeded outcome slot place
  | counted seen slot rest place node found fresh within inductionHypothesis =>
    have leads : document.follow slot.link = some (place, node) := found
    have below : (limit.filter fun limit => limit.bound < (outcome.counted : Int) + 1) = none := by
      rw [count]
      exact within
    rw [List.forall_mem_cons] at resolve
    have chosen : choose schema slot.path place node slot.candidates outcome.log =
        .ok (((schema.walk document limit).boundRule slot node).map Rule.definition,
          outcome.log.extend (Visit.rejectedEntries outcome.log.trace slot.path place node
            ((schema.walk document limit).rejectedRules slot node))) :=
      choose_eq_ok resolve.1 outcome.log
    rw [Walk.visits_counted found fresh within, Outcome.after_cons,
      walk_counted leads fresh below, chosen, ok_bind]
    cases bound : (schema.walk document limit).boundRule slot node with
    | none =>
      rw [Walk.opened_of_none bound] at inductionHypothesis ⊢
      rw [Walk.nodeFinding_of_none bound, obstacle?_cons rfl, Outcome.after_unidentified,
        Option.map_none]
      dsimp only
      rw [record_kept (Or.inr (Or.inl rfl)), ok_bind]
      exact inductionHypothesis resolve.2 (congrArg (· + 1) count)
    | some rule =>
      rw [Walk.opened_of_some bound] at inductionHypothesis ⊢
      rw [Walk.nodeFinding_of_some bound, obstacle?_cons rfl, Outcome.after_bound,
        Option.map_some]
      dsimp only
      rw [record_debug rfl, ok_bind, Log.extend_trace]
      refine inductionHypothesis ?_ (congrArg (· + 1) count)
      refine List.forall_mem_cons.mpr ⟨resolves_of_boundRule bound .children, ?_⟩
      exact List.forall_mem_cons.mpr ⟨resolves_of_boundRule bound .nextSiblings, resolve.2⟩

/-- The walk from a slot whose candidates resolve. -/
theorem walkFrom_eq {schema : Schema} {slot : Slot} (resolves : schema.Resolves slot.candidates)
    (document : Document) (limit : Option Limit) (log : Log) :
    walkFrom schema document limit slot log =
      settle (Visit.obstacle? ((schema.walk document limit).visits [] [slot]))
        (Outcome.after ⟨true, 0, log⟩ ((schema.walk document limit).visits [] [slot])) := by
  refine walk_eq [] [slot] (fun other member => ?_) rfl
  rw [List.mem_singleton.mp member]
  exact resolves

/-- Without a limit, nothing breaks the walk off. -/
theorem walkFrom_unlimited {schema : Schema} {slot : Slot}
    (resolves : schema.Resolves slot.candidates) (document : Document) (log : Log) :
    walkFrom schema document none slot log =
      .ok (Outcome.after ⟨true, 0, log⟩ ((schema.walk document none).visits [] [slot])) := by
  have free : Visit.obstacle? ((schema.walk document none).visits [] [slot]) = none :=
    Walk.obstacle?_visits nofun
  rw [walkFrom_eq resolves, free, settle]

/-! ### The whole file -/

/-- An extension is checked without fail. -/
theorem checkExtension_eq_ok (schema : Schema) (fileExtension : String) (log : Log) :
    checkExtension schema fileExtension log =
      .ok (schema.matchesExtension fileExtension,
        log.extend (if schema.matchesExtension fileExtension then []
          else [Verification.extensionEntry schema fileExtension])) := by
  rw [checkExtension]
  cases schema.matchesExtension fileExtension with
  | true => rw [if_pos rfl, if_pos rfl, Log.extend_nil]
  | false =>
    rw [if_neg Bool.false_ne_true, if_neg Bool.false_ne_true, record_kept (Or.inl rfl)]
    rfl

/-- A log takes the entry that closes a report, whatever the verdict. -/
theorem record_verdictEntry (catalog : Catalog) (schema : Schema) (filePath : String) (ok : Bool)
    (log : Log) :
    record log (Verification.verdictEntry catalog schema filePath ok) =
      .ok (log.extend [Verification.verdictEntry catalog schema filePath ok]) := by
  cases ok with
  | true => exact record_kept (Or.inr (Or.inr rfl)) log
  | false => exact record_kept (Or.inr (Or.inl rfl)) log

/-- Whatever the options, the catalog, the schema, the links and texts of the document, the place of
its header and the path of the file, a direct verification ends with the report of the prepared one,
unless there is an obstacle. -/
theorem verify_eq (options : Options) (catalog : Catalog) (schema : Schema)
    (document : Document) (root : Option Nat) (filePath : String) :
    verify options catalog schema document root filePath =
      settle (Verification.obstacle? options catalog schema document root)
        (TreeSchema.verify options catalog schema document root filePath) := by
  have resolves (first : Option Nat) :
      schema.Resolves (Verification.firstSlot schema first).candidates :=
    schema.resolves_headCandidates
  rw [verify, record_kept (Or.inr (Or.inr rfl)), ok_bind, checkExtension_eq_ok, ok_bind]
  simp only [checkHeader_eq, walkFrom_eq (resolves _), record_verdictEntry, Outcome.after,
    Bool.true_and, Nat.zero_add, Log.extend_extend, Log.extend_trace]
  have obstacles : Verification.obstacle? options catalog schema document root =
      (Header.obstacle? catalog schema (document.follow root)).or
        (Visit.obstacle? ((schema.walk document options.limit).visits []
          [Verification.firstSlot schema
            ((document.follow root).bind fun found => found.2.next)])) := rfl
  rw [obstacles]
  cases Header.obstacle? catalog schema (document.follow root) with
  | some obstacle => rfl
  | none =>
    rw [Option.none_or, settle, ok_bind]
    cases Visit.obstacle? ((schema.walk document options.limit).visits []
        [Verification.firstSlot schema
          ((document.follow root).bind fun found => found.2.next)]) with
    | some obstacle => rfl
    | none =>
      rw [settle, ok_bind, ok_bind, settle, TreeSchema.verify]
      simp only [Log.extend_extend, Log.entries_extend_empty, List.append_assoc, List.cons_append,
        List.nil_append]
      rfl

end Direct

end TreeSchema
