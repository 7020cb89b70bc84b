/-
This file collects what holds of every single visit of a walk, so that nothing later on
has to go through the walk again. A visit finds what the link of its slot leads to, the
slots of the visits are the slots that waited and those that were opened, each of them
visited once as long as no limit stops the walk, and a property of slots that a bound node
hands on to the slots it opens holds of all of them. The entries of a visit are those about
the candidates tried in vain and at most one more, which says what was found. The number of
entries of a report that mean a certain failure is therefore a number of visits.
-/
import TreeSchema.Proofs.Trail

namespace TreeSchema

/-! ### What is found at a node -/

namespace Walk

variable {walk : Walk} {slot : Slot} {seen : List Nat} {waiting : List Slot}

theorem counts_nodeFinding (walk : Walk) (slot : Slot) (place : Nat) (node : Node) :
    (walk.nodeFinding slot place node).counts = true := by
  cases bound : walk.boundRule slot node with
  | none => rw [nodeFinding_of_none bound]; rfl
  | some rule => rw [nodeFinding_of_some bound]; rfl

theorem place?_nodeFinding (walk : Walk) (slot : Slot) (place : Nat) (node : Node) :
    (walk.nodeFinding slot place node).place? = some place := by
  cases bound : walk.boundRule slot node with
  | none => rw [nodeFinding_of_none bound]; rfl
  | some rule => rw [nodeFinding_of_some bound]; rfl

theorem counts_emptyFinding (slot : Slot) : (emptyFinding slot).counts = false := by
  unfold emptyFinding
  split <;> rfl

theorem place?_emptyFinding (slot : Slot) : (emptyFinding slot).place? = none := by
  unfold emptyFinding
  split <;> rfl

theorem opened_emptyFinding (slot : Slot) :
    (⟨slot, emptyFinding slot⟩ : Visit).opened = [] := by
  unfold emptyFinding
  split <;> rfl

/-! ### One visit of a walk -/

/-- What a walk may find in a slot. Nothing is said of the nodes that were counted before. -/
inductive Meets (walk : Walk) : Visit → Prop where
  | empty {slot : Slot} (nowhere : walk.follow slot.link = none) :
      Meets walk ⟨slot, emptyFinding slot⟩
  | repeated {slot : Slot} {place : Nat} {node : Node}
      (found : walk.follow slot.link = some (place, node)) :
      Meets walk ⟨slot, .repeated place node⟩
  | overLimit {slot : Slot} {place : Nat} {node : Node} {limit : Limit}
      (found : walk.follow slot.link = some (place, node)) (limited : walk.limit = some limit) :
      Meets walk ⟨slot, .overLimit place limit⟩
  | counted {slot : Slot} {place : Nat} {node : Node}
      (found : walk.follow slot.link = some (place, node)) :
      Meets walk ⟨slot, walk.nodeFinding slot place node⟩

theorem meets_of_mem {visit : Visit} (member : visit ∈ walk.visits seen waiting) :
    walk.Meets visit := by
  induction seen, waiting using visits_induction walk with
  | nil seen =>
    rw [visits_nil] at member
    cases member
  | empty seen slot rest nowhere inductionHypothesis =>
    rw [visits_empty nowhere, List.mem_cons] at member
    rcases member with rfl | later
    · exact .empty nowhere
    · exact inductionHypothesis later
  | repeated seen slot rest place node found known inductionHypothesis =>
    rw [visits_repeated found known, List.mem_cons] at member
    rcases member with rfl | later
    · exact .repeated found
    · exact inductionHypothesis later
  | overLimit seen slot rest place node limit found fresh exceeded =>
    rw [visits_overLimit found fresh exceeded, List.mem_singleton] at member
    rw [member]
    exact .overLimit found (Option.filter_eq_some_iff.mp exceeded).1
  | counted seen slot rest place node found fresh within inductionHypothesis =>
    rw [visits_counted found fresh within, List.mem_cons] at member
    rcases member with rfl | later
    · exact .counted found
    · exact inductionHypothesis later

/-- The place that a visit finds is where the link of its slot leads. -/
theorem Meets.place? {visit : Visit} (meets : walk.Meets visit) :
    visit.finding.place? = (walk.follow visit.slot.link).map Prod.fst := by
  cases meets with
  | empty nowhere => rw [nowhere, place?_emptyFinding]; rfl
  | repeated found => rw [found]; rfl
  | overLimit found _ => rw [found]; rfl
  | counted found => rw [found, place?_nodeFinding]; rfl

/-- A visit breaks off only where a limit is reached that has no text. -/
theorem Meets.obstacle?_eq_none {visit : Visit} (meets : walk.Meets visit)
    (shown : ∀ limit, walk.limit = some limit → limit.obstacle? = none) :
    visit.finding.obstacle? = none := by
  cases meets with
  | @empty slot nowhere =>
    unfold emptyFinding
    split <;> rfl
  | repeated found => rfl
  | overLimit found limited => exact shown _ limited
  | @counted slot place node found =>
    cases bound : walk.boundRule slot node with
    | none => rw [nodeFinding_of_none bound]; rfl
    | some rule => rw [nodeFinding_of_some bound]; rfl

theorem obstacle?_visits (shown : ∀ limit, walk.limit = some limit → limit.obstacle? = none) :
    Visit.obstacle? (walk.visits seen waiting) = none :=
  List.findSome?_eq_none_iff.mpr fun _ member => (meets_of_mem member).obstacle?_eq_none shown

/-! ### The slots of all visits -/

/-- A property of the slots that wait, which each visit hands on to the slots it opens, holds of the
slots of all visits. -/
theorem forall_slot {property : Slot → Prop} (start : ∀ slot ∈ waiting, property slot)
    (handed : ∀ visit ∈ walk.visits seen waiting, property visit.slot →
      ∀ slot ∈ visit.opened, property slot) :
    ∀ visit ∈ walk.visits seen waiting, property visit.slot := by
  induction seen, waiting using visits_induction walk with
  | nil seen =>
    rw [visits_nil]
    exact fun _ member => absurd member List.not_mem_nil
  | empty seen slot rest nowhere inductionHypothesis =>
    rw [visits_empty nowhere, List.forall_mem_cons] at handed ⊢
    rw [List.forall_mem_cons] at start
    exact ⟨start.1, inductionHypothesis start.2 handed.2⟩
  | repeated seen slot rest place node found known inductionHypothesis =>
    rw [visits_repeated found known, List.forall_mem_cons] at handed ⊢
    rw [List.forall_mem_cons] at start
    exact ⟨start.1, inductionHypothesis start.2 handed.2⟩
  | overLimit seen slot rest place node limit found fresh exceeded =>
    rw [visits_overLimit found fresh exceeded, List.forall_mem_singleton]
    exact start slot List.mem_cons_self
  | counted seen slot rest place node found fresh within inductionHypothesis =>
    rw [visits_counted found fresh within, List.forall_mem_cons] at handed ⊢
    rw [List.forall_mem_cons] at start
    refine ⟨start.1, inductionHypothesis (fun opened member => ?_) handed.2⟩
    rcases List.mem_append.mp member with inOpened | inRest
    · exact handed.1 start.1 opened inOpened
    · exact start.2 opened inRest

/-- Without a limit, the slots that wait and those that are opened are visited, each of them
once. -/
theorem slots_perm (unlimited : walk.limit = none) (seen : List Nat) (waiting : List Slot) :
    ((walk.visits seen waiting).map Visit.slot).Perm
      (waiting ++ (walk.visits seen waiting).flatMap Visit.opened) := by
  induction seen, waiting using visits_induction walk with
  | nil seen => rw [visits_nil]; exact .nil
  | empty seen slot rest nowhere inductionHypothesis =>
    rw [visits_empty nowhere, List.map_cons, List.flatMap_cons, opened_emptyFinding]
    exact inductionHypothesis.cons slot
  | repeated seen slot rest place node found known inductionHypothesis =>
    rw [visits_repeated found known, List.map_cons, List.flatMap_cons]
    exact inductionHypothesis.cons slot
  | overLimit seen slot rest place node limit found fresh exceeded =>
    rw [exceeded?_of_unlimited unlimited] at exceeded
    cases exceeded
  | counted seen slot rest place node found fresh within inductionHypothesis =>
    rw [visits_counted found fresh within, List.map_cons, List.flatMap_cons, List.cons_append]
    refine List.Perm.cons slot (inductionHypothesis.trans ?_)
    rw [← List.append_assoc]
    exact List.perm_append_comm.append_right _

end Walk

/-! ### The entries of a visit -/

/-- The codes of the entries that say what was found in a visit. -/
def Code.outcomeCodes : List Code :=
  walkFailures ++ [.nodeMatched]

/-- The code of the entry that says what was found. -/
def Finding.code? : Finding → Option Code
  | absent => none
  | missing => some .missingNode
  | repeated _ _ => some .cyclicLink
  | overLimit _ _ => some .nodeLimit
  | unidentified _ _ _ => some .unidentifiedNode
  | bound _ _ _ _ => some .nodeMatched

theorem Walk.code?_emptyFinding (slot : Slot) :
    (emptyFinding slot).code? = if .absent ∈ slot.candidates then none else some .missingNode := by
  unfold emptyFinding
  split <;> rfl

theorem Walk.code?_nodeFinding (walk : Walk) (slot : Slot) (place : Nat) (node : Node) :
    (walk.nodeFinding slot place node).code? = some .unidentifiedNode ∨
      (walk.nodeFinding slot place node).code? = some .nodeMatched := by
  cases bound : walk.boundRule slot node with
  | none => rw [nodeFinding_of_none bound]; exact Or.inl rfl
  | some rule => rw [nodeFinding_of_some bound]; exact Or.inr rfl

namespace Visit

theorem countNodes_cons_of_counts {visit : Visit} (counts : visit.finding.counts = true)
    (visits : List Visit) : countNodes (visit :: visits) = countNodes visits + 1 := by
  simp only [countNodes, List.countP_cons, counts, if_true]

theorem countNodes_cons_of_not_counts {visit : Visit} (uncounted : visit.finding.counts = false)
    (visits : List Visit) : countNodes (visit :: visits) = countNodes visits := by
  simp only [countNodes, List.countP_cons, uncounted, Bool.false_eq_true, if_false, Nat.add_zero]

/-- The entries about the candidates that were tried in vain in a visit. -/
def trialEntries (trace : Bool) (visit : Visit) : List Diagnostic :=
  match visit.finding with
  | .unidentified place node rejected => rejectedEntries trace visit.slot.path place node rejected
  | .bound place node rejected _ => rejectedEntries trace visit.slot.path place node rejected
  | _ => []

/-- The entry that says what was found in a visit. -/
def outcome? (trace : Bool) (visit : Visit) : Option Diagnostic :=
  match visit.finding with
  | .absent => none
  | .missing => some (missingEntry visit.slot.path visit.slot.candidates)
  | .repeated place node => some (cyclicEntry visit.slot.path place node)
  | .overLimit place limit => some (limitEntry visit.slot.path place limit)
  | .unidentified place node _ =>
    some (unidentifiedEntry visit.slot.path place node visit.slot.candidates)
  | .bound place node _ rule =>
    if trace then some (matchedEntry visit.slot.path place node rule.definition) else none

theorem entries_eq (trace : Bool) (visit : Visit) :
    visit.entries trace = visit.trialEntries trace ++ (visit.outcome? trace).toList := by
  unfold entries trialEntries outcome?
  cases visit.finding with
  | bound place node rejected rule => cases trace <;> rfl
  | _ => rfl

/-- An entry about a candidate that was tried in vain points at the node that was found. -/
theorem exists_of_mem_trialEntries {trace : Bool} {visit : Visit} {entry : Diagnostic}
    (member : entry ∈ visit.trialEntries trace) :
    ∃ place node rule, visit.finding.place? = some place ∧
      entry = rejectedEntry visit.slot.path place node rule := by
  obtain ⟨slot, finding⟩ := visit
  have rejections {place : Nat} {node : Node} {rejected : List Rule}
      (inVain : entry ∈ rejectedEntries trace slot.path place node rejected) :
      ∃ rule, entry = rejectedEntry slot.path place node rule := by
    unfold rejectedEntries at inVain
    split at inVain
    · obtain ⟨rule, _, same⟩ := List.mem_map.mp inVain
      exact ⟨rule, same.symm⟩
    · cases inVain
  cases finding with
  | unidentified place node rejected =>
    obtain ⟨tried, same⟩ := rejections member
    exact ⟨place, node, tried, rfl, same⟩
  | bound place node rejected rule =>
    obtain ⟨tried, same⟩ := rejections member
    exact ⟨place, node, tried, rfl, same⟩
  | _ => cases member

theorem code_of_mem_trialEntries {trace : Bool} {visit : Visit} {entry : Diagnostic}
    (member : entry ∈ visit.trialEntries trace) : entry.code = .candidateRejected := by
  obtain ⟨place, node, rule, _, rfl⟩ := exists_of_mem_trialEntries member
  rfl

/-- Of a code that says what was found, a visit leaves one entry if this is its finding, which
points at the node that was found, and none otherwise. A binding is reported only while tracing. -/
theorem map_node_filter_entries {code : Code} (outcome : code ∈ Code.outcomeCodes) (trace : Bool)
    (visit : Visit) :
    ((visit.entries trace).filter fun entry => entry.code == code).map Diagnostic.node =
      if (trace || code != .nodeMatched) && visit.finding.code? == some code then
        [visit.finding.place?]
      else [] := by
  have trials : (visit.trialEntries trace).filter (fun entry => entry.code == code) = [] := by
    refine List.filter_eq_nil_iff.mpr fun entry member same => ?_
    rw [code_of_mem_trialEntries member, beq_iff_eq] at same
    exact absurd (same ▸ outcome) (by decide)
  rw [entries_eq, List.filter_append, trials, List.nil_append]
  have single {entry : Diagnostic} {place : Option Nat} (reported : trace = true ∨
      entry.code ≠ .nodeMatched) (points : entry.node = place) :
      ([entry].filter fun entry => entry.code == code).map Diagnostic.node =
        if (trace || code != .nodeMatched) && some entry.code == some code then [place]
        else [] := by
    by_cases same : entry.code = code
    · have reports : (trace || code != .nodeMatched) = true := by simpa [same] using reported
      simp [same, points, reports]
    · simp [same]
  obtain ⟨slot, finding⟩ := visit
  cases finding with
  | absent => simp [outcome?, Finding.code?]
  | bound place node rejected rule =>
    cases trace with
    | true => exact single (Or.inl rfl) rfl
    | false =>
      by_cases same : code = .nodeMatched
      · simp [outcome?, same]
      · simp [outcome?, Finding.code?, Ne.symm same]
  | _ => exact single (Or.inr Code.noConfusion) rfl

theorem map_node_filter_allEntries {code : Code} (outcome : code ∈ Code.outcomeCodes)
    (trace : Bool) (visits : List Visit) :
    ((allEntries trace visits).filter fun entry => entry.code == code).map Diagnostic.node =
      (visits.filter fun visit =>
        (trace || code != .nodeMatched) && visit.finding.code? == some code).map
          fun visit => visit.finding.place? := by
  induction visits with
  | nil => rfl
  | cons visit rest inductionHypothesis =>
    rw [allEntries, List.flatMap_cons, List.filter_append, List.map_append, ← allEntries,
      inductionHypothesis, map_node_filter_entries outcome, List.filter_cons]
    split <;> rfl

end Visit

/-! ### The entries of a report -/

section Report

variable (options : Options) (catalog : Catalog) (schema : Schema) (document : Document)
  (root : Option Nat) (filePath : String)

/-- The trail of a verification that left the entries given during its walk. -/
def Verification.trail (trace : Bool) (walked : List Diagnostic) (ok : Bool) : List Diagnostic :=
  [startEntry catalog schema filePath] ++ (extensionEntries schema filePath ++
    ((Header.check trace catalog schema (document.follow root)).2 ++
      (walked ++ [verdictEntry catalog schema filePath ok])))

theorem diagnostics_verify_eq_trail :
    (verify options catalog schema document root filePath).diagnostics =
      Verification.trail catalog schema document root filePath options.trace
        (Visit.allEntries options.trace (Verification.visits options schema document root))
        (verify options catalog schema document root filePath).ok := by
  rw [diagnostics_verify, Verification.body, Verification.trail]
  simp only [List.append_assoc, List.cons_append, List.nil_append]

/-- Among the entries that say what was found, those about the header come before those that report
visits. -/
theorem filter_diagnostics_verify {keep : Diagnostic → Bool}
    (outcome : ∀ entry, keep entry = true → entry.code ∈ Code.outcomeCodes) :
    (verify options catalog schema document root filePath).diagnostics.filter keep =
      (Header.check options.trace catalog schema (document.follow root)).2.filter keep ++
      (Visit.allEntries options.trace (Verification.visits options schema document root)).filter
        keep := by
  have apart {entries : List Diagnostic} {other : Code}
      (all : ∀ entry ∈ entries, entry.code = other) (unlisted : other ∉ Code.outcomeCodes) :
      entries.filter keep = [] := by
    refine List.filter_eq_nil_iff.mpr fun entry member kept => ?_
    exact unlisted (all entry member ▸ outcome entry kept)
  have opening : [Verification.startEntry catalog schema filePath].filter keep = [] :=
    apart (List.forall_mem_singleton.mpr rfl) (by decide : Code.start ∉ _)
  have extension : (Verification.extensionEntries schema filePath).filter keep = [] := by
    refine apart (fun entry member => ?_) (by decide : Code.extensionMismatch ∉ _)
    exact List.mem_singleton.mp (concern_extensionEntries schema filePath entry member).1
  have closing (ok : Bool) :
      [Verification.verdictEntry catalog schema filePath ok].filter keep = [] :=
    apart (List.forall_mem_singleton.mpr (code_verdictEntry ..)) (by decide : Code.verdict ∉ _)
  rw [diagnostics_verify_eq_trail, Verification.trail]
  simp only [List.filter_append, opening, extension, closing, List.nil_append, List.append_nil]

/-- The entries with the code of a failure of the walk point at what was found in the visits in
which this failure was found. -/
theorem map_node_byCode_verify {code : Code} (failure : code ∈ Code.walkFailures) :
    ((verify options catalog schema document root filePath).byCode code).map Diagnostic.node =
      ((Verification.visits options schema document root).filter
        fun visit => visit.finding.code? == some code).map fun visit => visit.finding.place? := by
  have outcome : code ∈ Code.outcomeCodes := List.mem_append_left _ failure
  have different {other : Code} (unlisted : other ∉ Code.walkFailures) : code ≠ other :=
    fun same => unlisted (same ▸ failure)
  have header : (Header.check options.trace catalog schema (document.follow root)).2.filter
      (fun entry => entry.code == code) = [] := by
    refine List.filter_eq_nil_iff.mpr fun entry member same => ?_
    rw [beq_iff_eq] at same
    have listed :=
      (concern_check options.trace catalog schema (document.follow root) entry member).1
    rw [same, List.mem_cons, List.mem_singleton] at listed
    exact listed.elim (different (by decide)) (different (by decide))
  have reported : (options.trace || code != .nodeMatched) = true :=
    Bool.or_eq_true _ _ ▸ Or.inr (bne_iff_ne.mpr (different (by decide)))
  rw [Report.byCode, filter_diagnostics_verify _ _ _ _ _ _ fun entry same => ?_, header,
    List.nil_append, Visit.map_node_filter_allEntries outcome]
  · simp only [reported, Bool.true_and]
  · rw [beq_iff_eq.mp same]
    exact outcome

/-- The number of entries with the code of a failure of the walk is the number of visits in which
this failure was found. -/
theorem length_byCode_verify {code : Code} (failure : code ∈ Code.walkFailures) :
    ((verify options catalog schema document root filePath).byCode code).length =
      (Verification.visits options schema document root).countP
        fun visit => visit.finding.code? == some code := by
  have lengths := congrArg List.length
    (map_node_byCode_verify options catalog schema document root filePath failure)
  rw [List.length_map, List.length_map] at lengths
  rw [lengths, List.countP_eq_length_filter]

end Report

end TreeSchema
