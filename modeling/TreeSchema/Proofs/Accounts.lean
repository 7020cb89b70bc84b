/-
This file keeps the accounts of a walk without a limit. The links may share nodes and may
form cycles, so the order of the visits decides which of the links to a node is followed
first, and which of them are said to lead to it once more. The sums do not depend on this.
Every link that the walk should follow, the one after the header and the two of each node
that is bound, is followed in exactly one visit: it leads nowhere, which is a failure where
a node is required, or to a node that is counted in this visit, or to one that was counted
before. So the nodes that are counted are those the links lead to, each counted once, and
the links that lead to a node once more are those that are left over.
-/
import Mathlib.Order.Bounds.Defs
import TreeSchema.Proofs.Limits
import TreeSchema.Proofs.Location

namespace TreeSchema

/-! ### Links and the nodes they lead to -/

/-- A link, and the candidates for the node it leads to. -/
structure Expectation where
  link : Option Nat
  candidates : List Reference
  deriving DecidableEq, Repr

namespace Expectation

variable (document : Document)

/-- The place of the node that the link leads to. -/
def target? (expectation : Expectation) : Option Nat :=
  (document.follow expectation.link).map Prod.fst

/-- Whether the link leads to a node. -/
def isMet (expectation : Expectation) : Bool :=
  (expectation.target? document).isSome

/-- Whether the link leads nowhere, though a node is required. -/
def isMissed (expectation : Expectation) : Bool :=
  (expectation.target? document).isNone && .absent ∉ expectation.candidates

/-- The node that the link leads to, if any, is among the places. -/
def LeadsInto (places : Set Nat) (expectation : Expectation) : Prop :=
  ∀ place, expectation.target? document = some place → place ∈ places

end Expectation

/-- A slot apart from the way to it. -/
def Slot.expectation (slot : Slot) : Expectation :=
  ⟨slot.link, slot.candidates⟩

/-- A node at a place, and the definition that is bound to it. -/
structure Match where
  place : Nat
  node : Node
  definition : Definition
  deriving DecidableEq

/-- The two links of a bound node. -/
def Match.expectations (bound : Match) : List Expectation :=
  [⟨bound.node.child, bound.definition.children.references⟩,
    ⟨bound.node.next, bound.definition.nextSiblings.references⟩]

namespace Finding

/-- The node that is bound. -/
def match? : Finding → Option Match
  | bound place node _ rule => some ⟨place, node, rule.definition⟩
  | _ => none

/-- The place of the node that is counted. -/
def counted? (finding : Finding) : Option Nat :=
  finding.place?.filter fun _ => finding.counts

end Finding

namespace Visit

/-- The places of the nodes that are counted, in their order. -/
def countedPlaces (visits : List Visit) : List Nat :=
  visits.filterMap fun visit => visit.finding.counted?

/-- The nodes that are bound, in their order. -/
def matched (visits : List Visit) : List Match :=
  visits.filterMap fun visit => visit.finding.match?

theorem countedPlaces_cons_of_some {visit : Visit} {place : Nat}
    (counted : visit.finding.counted? = some place) (visits : List Visit) :
    countedPlaces (visit :: visits) = place :: countedPlaces visits :=
  List.filterMap_cons_some counted

theorem countedPlaces_cons_of_none {visit : Visit} (uncounted : visit.finding.counted? = none)
    (visits : List Visit) : countedPlaces (visit :: visits) = countedPlaces visits :=
  List.filterMap_cons_none uncounted

theorem length_countedPlaces (visits : List Visit) :
    (countedPlaces visits).length = countNodes visits := by
  rw [countedPlaces, List.length_filterMap_eq_countP, countNodes]
  refine List.countP_congr fun visit _ => ?_
  cases visit.finding <;> simp [Finding.counted?, Finding.place?, Finding.counts]

/-- The slots that visits open are those of the nodes they bind. -/
theorem map_expectation_opened (visits : List Visit) :
    (visits.flatMap opened).map Slot.expectation =
      (matched visits).flatMap Match.expectations := by
  rw [matched, List.filterMap_eq_flatMap_toList, List.flatMap_assoc, List.map_flatMap]
  refine List.flatMap_congr fun visit _ => ?_
  unfold opened
  cases visit.finding <;> rfl

/-- Of the nodes that are counted, each is bound or unidentified. -/
theorem countedPlaces_perm (visits : List Visit) :
    ((countedPlaces visits).map some).Perm
      ((matched visits).map (fun bound => some bound.place) ++
        (visits.filter fun visit => visit.finding.code? == some .unidentifiedNode).map
          fun visit => visit.finding.place?) := by
  induction visits with
  | nil => exact .nil
  | cons visit rest inductionHypothesis =>
    obtain ⟨slot, finding⟩ := visit
    cases finding with
    | bound place node rejected rule => exact inductionHypothesis.cons (some place)
    | unidentified place node rejected =>
      exact (inductionHypothesis.cons (some place)).trans List.perm_middle.symm
    | _ => exact inductionHypothesis

/-- A visit that counts a node does not find it again. -/
theorem countP_cyclicLink_add_countNodes (visits : List Visit) :
    visits.countP (fun visit => visit.finding.code? == some .cyclicLink) + countNodes visits =
      visits.countP fun visit =>
        visit.finding.code? == some .cyclicLink || visit.finding.counts := by
  induction visits with
  | nil => rfl
  | cons visit rest inductionHypothesis =>
    rw [countNodes] at inductionHypothesis ⊢
    rw [List.countP_cons, List.countP_cons, List.countP_cons, ← inductionHypothesis]
    cases visit.finding <;> simp [Finding.code?, Finding.counts] <;> omega

/-- The visits in which a node is bound. -/
theorem map_place?_of_nodeMatched (visits : List Visit) :
    (visits.filter fun visit => visit.finding.code? == some .nodeMatched).map
        (fun visit => visit.finding.place?) =
      (matched visits).map fun bound => some bound.place := by
  induction visits with
  | nil => rfl
  | cons visit rest inductionHypothesis =>
    obtain ⟨slot, finding⟩ := visit
    cases finding with
    | bound place node rejected rule => exact congrArg (some place :: ·) inductionHypothesis
    | _ => exact inductionHypothesis

end Visit

/-! ### Single visits of a walk without a limit -/

namespace Walk

variable {walk : Walk} {seen : List Nat} {waiting : List Slot}

theorem counted?_emptyFinding (slot : Slot) : (emptyFinding slot).counted? = none := by
  rw [Finding.counted?, place?_emptyFinding]
  rfl

theorem counted?_nodeFinding (walk : Walk) (slot : Slot) (place : Nat) (node : Node) :
    (walk.nodeFinding slot place node).counted? = some place := by
  rw [Finding.counted?, place?_nodeFinding, counts_nodeFinding]
  rfl

namespace Meets

variable {visit : Visit}

/-- The place that a visit finds is the target of its link. -/
theorem place?_eq_target? (meets : walk.Meets visit) :
    visit.finding.place? = visit.slot.expectation.target? walk.document :=
  meets.place?

/-- A visit reports a missing node exactly if its link leads nowhere and a node is required. -/
theorem code?_missingNode (meets : walk.Meets visit) :
    (visit.finding.code? == some .missingNode) =
      visit.slot.expectation.isMissed walk.document := by
  have target := meets.place?_eq_target?
  rw [Expectation.isMissed, ← target]
  cases meets with
  | @empty slot nowhere =>
    rw [code?_emptyFinding, place?_emptyFinding]
    by_cases allowed : .absent ∈ slot.candidates <;> simp [allowed, Slot.expectation]
  | repeated found => rfl
  | overLimit found limited => rfl
  | @counted slot place node found =>
    rw [place?_nodeFinding]
    rcases code?_nodeFinding walk slot place node with code | code <;> rw [code] <;> rfl

/-- A link that leads to a node leads to one that is counted, or that was counted before. -/
theorem isMet_eq (unlimited : walk.limit = none) (meets : walk.Meets visit) :
    visit.slot.expectation.isMet walk.document =
      (visit.finding.code? == some .cyclicLink || visit.finding.counts) := by
  have target := meets.place?_eq_target?
  rw [Expectation.isMet, ← target]
  cases meets with
  | @empty slot nowhere =>
    rw [code?_emptyFinding, place?_emptyFinding, counts_emptyFinding]
    split <;> rfl
  | repeated found => rfl
  | overLimit found limited =>
    rw [unlimited] at limited
    cases limited
  | counted found => rw [place?_nodeFinding, counts_nodeFinding, Bool.or_true]; rfl

/-- A bound node is stored at its place, and its definition is one of the schema. -/
theorem stored_of_match? {schema : Schema} {document : Document} {limit : Option Limit}
    (meets : (schema.walk document limit).Meets visit) {bound : Match}
    (found : visit.finding.match? = some bound) :
    document.node? bound.place = some bound.node ∧
      schema.find? bound.definition.name = some bound.definition := by
  cases meets with
  | @empty slot nowhere =>
    unfold emptyFinding at found
    split at found <;> cases found
  | repeated repeated => cases found
  | overLimit other limited => cases found
  | @counted slot place node leads =>
    cases binding : (schema.walk document limit).boundRule slot node with
    | none =>
      rw [nodeFinding_of_none binding] at found
      cases found
    | some rule =>
      rw [nodeFinding_of_some binding] at found
      cases found
      exact ⟨(Document.follow_eq_some_iff.mp leads).2, Schema.find?_of_boundRule binding⟩

end Meets

/-! ### The nodes that are counted -/

/-- No node is counted twice, and none that was counted before. -/
theorem nodup_countedPlaces (seen : List Nat) (waiting : List Slot) :
    (Visit.countedPlaces (walk.visits seen waiting)).Nodup ∧
      ∀ place ∈ Visit.countedPlaces (walk.visits seen waiting), place ∉ seen := by
  induction seen, waiting using visits_induction walk with
  | nil seen =>
    rw [visits_nil]
    exact ⟨List.nodup_nil, fun _ member => absurd member List.not_mem_nil⟩
  | empty seen slot rest nowhere inductionHypothesis =>
    rw [visits_empty nowhere, Visit.countedPlaces_cons_of_none (counted?_emptyFinding slot)]
    exact inductionHypothesis
  | repeated seen slot rest place node found known inductionHypothesis =>
    rw [visits_repeated found known, Visit.countedPlaces_cons_of_none rfl]
    exact inductionHypothesis
  | overLimit seen slot rest place node limit found fresh exceeded =>
    rw [visits_overLimit found fresh exceeded, Visit.countedPlaces_cons_of_none rfl]
    exact ⟨List.nodup_nil, fun _ member => absurd member List.not_mem_nil⟩
  | counted seen slot rest place node found fresh within inductionHypothesis =>
    obtain ⟨nodup, later⟩ := inductionHypothesis
    rw [visits_counted found fresh within,
      Visit.countedPlaces_cons_of_some (counted?_nodeFinding ..), List.nodup_cons,
      List.forall_mem_cons]
    exact ⟨⟨fun member => later place member List.mem_cons_self, nodup⟩, fresh,
      fun other member inSeen => later other member (List.mem_cons_of_mem _ inSeen)⟩

/-- Every node that is found is counted, unless it was before. -/
theorem mem_seen_or_countedPlaces (unlimited : walk.limit = none) {visit : Visit} {place : Nat}
    (member : visit ∈ walk.visits seen waiting) (found : visit.finding.place? = some place) :
    place ∈ seen ∨ place ∈ Visit.countedPlaces (walk.visits seen waiting) := by
  induction seen, waiting using visits_induction walk with
  | nil seen =>
    rw [visits_nil] at member
    cases member
  | empty seen slot rest nowhere inductionHypothesis =>
    rw [visits_empty nowhere, List.mem_cons] at member
    rw [visits_empty nowhere, Visit.countedPlaces_cons_of_none (counted?_emptyFinding slot)]
    rcases member with rfl | later
    · rw [place?_emptyFinding] at found
      cases found
    · exact inductionHypothesis later
  | repeated seen slot rest other node leads known inductionHypothesis =>
    rw [visits_repeated leads known, List.mem_cons] at member
    rw [visits_repeated leads known, Visit.countedPlaces_cons_of_none rfl]
    rcases member with rfl | later
    · cases found
      exact Or.inl known
    · exact inductionHypothesis later
  | overLimit seen slot rest other node limit leads fresh exceeded =>
    rw [exceeded?_of_unlimited unlimited] at exceeded
    cases exceeded
  | counted seen slot rest other node leads fresh within inductionHypothesis =>
    rw [visits_counted leads fresh within, List.mem_cons] at member
    rw [visits_counted leads fresh within,
      Visit.countedPlaces_cons_of_some (counted?_nodeFinding ..), List.mem_cons]
    rcases member with rfl | later
    · rw [place?_nodeFinding] at found
      cases found
      exact Or.inr (Or.inl rfl)
    · rcases inductionHypothesis later with inSeen | among
      · rcases List.mem_cons.mp inSeen with rfl | inSeen
        · exact Or.inr (Or.inl rfl)
        · exact Or.inl inSeen
      · exact Or.inr (Or.inr among)

end Walk

/-! ### The accounts of a verification -/

namespace Verification

/-- The link after the header. -/
def firstExpectation (schema : Schema) (document : Document) (root : Option Nat) : Expectation :=
  ⟨document.afterHeader root, schema.headCandidates.map .named⟩

/-- The link after the header, and the two links of each node that is bound. -/
def expectations (schema : Schema) (document : Document) (root : Option Nat)
    (visits : List Visit) : List Expectation :=
  firstExpectation schema document root :: (Visit.matched visits).flatMap Match.expectations

/-- What the visits and the report of a verification say about nodes and links agrees. -/
structure Accounted (trace : Bool) (schema : Schema) (document : Document) (root : Option Nat)
    (visits : List Visit) (report : Report) : Prop where
  stored : ∀ bound ∈ Visit.matched visits, document.node? bound.place = some bound.node ∧
    schema.find? bound.definition.name = some bound.definition
  nodup : (Visit.countedPlaces visits).Nodup
  counted : report.counted = (Visit.countedPlaces visits).length
  /-- The nodes that are counted are those that the links lead to. -/
  least : IsLeast {places : Set Nat | ∀ expectation ∈ expectations schema document root visits,
      expectation.LeadsInto document places}
    {place | place ∈ Visit.countedPlaces visits}
  /-- It is enough to follow the links of the bound nodes that the links lead to. -/
  reached : IsLeast {places : Set Nat |
      (firstExpectation schema document root).LeadsInto document places ∧
      ∀ bound ∈ Visit.matched visits, bound.place ∈ places →
        ∀ expectation ∈ bound.expectations, expectation.LeadsInto document places}
    {place | place ∈ Visit.countedPlaces visits}
  /-- Each node that is counted is bound or reported as unidentified, and this once. -/
  split : ((Visit.countedPlaces visits).map some).Perm
    ((Visit.matched visits).map (fun bound => some bound.place) ++
      (report.byCode .unidentifiedNode).map Diagnostic.node)
  total : report.counted =
    (Visit.matched visits).length + (report.byCode .unidentifiedNode).length
  /-- The traced trail names the nodes that are bound, after the header. -/
  traced : (report.diagnostics.filter fun entry =>
      entry.code == .nodeMatched && entry.path != Header.path).map Diagnostic.node =
    if trace then (Visit.matched visits).map fun bound => some bound.place else []
  missing : (report.byCode .missingNode).length =
    (expectations schema document root visits).countP (Expectation.isMissed document)
  /-- The links that lead to a node, less those that were the first to do so, are reported. -/
  repeated : (report.byCode .cyclicLink).length + report.counted =
    (expectations schema document root visits).countP (Expectation.isMet document)

variable (trace : Bool) (catalog : Catalog) (schema : Schema) (document : Document)
  (root : Option Nat) (filePath : String)

/-- Each link that a verification should follow is followed in one visit. -/
theorem expectations_perm :
    ((visits ⟨trace, none⟩ schema document root).map fun visit => visit.slot.expectation).Perm
      (expectations schema document root (visits ⟨trace, none⟩ schema document root)) := by
  have slots : ((visits ⟨trace, none⟩ schema document root).map Visit.slot).Perm
      ([firstSlot schema (document.afterHeader root)] ++
        (visits ⟨trace, none⟩ schema document root).flatMap Visit.opened) :=
    Walk.slots_perm rfl [] _
  have links := slots.map Slot.expectation
  rw [List.map_map, List.map_append, Visit.map_expectation_opened] at links
  exact links

/-- The number of links of some kind is the number of visits that follow one. -/
theorem countP_expectations (kind : Expectation → Bool) :
    (expectations schema document root (visits ⟨trace, none⟩ schema document root)).countP kind =
      (visits ⟨trace, none⟩ schema document root).countP fun visit =>
        kind visit.slot.expectation := by
  rw [← (expectations_perm trace schema document root).countP_eq, List.countP_map]
  rfl

/-- A visit of a verification without a limit. -/
theorem meets_of_mem_visits {visit : Visit}
    (member : visit ∈ visits ⟨trace, none⟩ schema document root) :
    (schema.walk document none).Meets visit :=
  Walk.meets_of_mem member

theorem leadsInto_countedPlaces :
    ∀ expectation ∈ expectations schema document root (visits ⟨trace, none⟩ schema document root),
      expectation.LeadsInto document
        {place | place ∈ Visit.countedPlaces (visits ⟨trace, none⟩ schema document root)} := by
  intro expectation member place target
  rw [← (expectations_perm trace schema document root).mem_iff, List.mem_map] at member
  obtain ⟨visit, among, rfl⟩ := member
  have found : visit.finding.place? = some place :=
    (meets_of_mem_visits trace schema document root among).place?_eq_target?.trans target
  rcases Walk.mem_seen_or_countedPlaces rfl among found with before | counted
  · exact absurd before List.not_mem_nil
  · exact counted

/-- Where the links of the bound nodes among some places lead into these places, and the link after
the header does, all nodes that are counted are among them. -/
theorem mem_of_mem_countedPlaces {places : Set Nat}
    (start : (firstExpectation schema document root).LeadsInto document places)
    (closed : ∀ bound ∈ Visit.matched (visits ⟨trace, none⟩ schema document root),
      bound.place ∈ places →
        ∀ expectation ∈ bound.expectations, expectation.LeadsInto document places)
    {place : Nat}
    (counted : place ∈ Visit.countedPlaces (visits ⟨trace, none⟩ schema document root)) :
    place ∈ places := by
  have leads : ∀ visit ∈ visits ⟨trace, none⟩ schema document root,
      visit.slot.expectation.LeadsInto document places := by
    let follows (slot : Slot) : Prop := slot.expectation.LeadsInto document places
    refine @Walk.forall_slot _ _ _ follows (List.forall_mem_singleton.mpr start) ?_
    intro visit among here slot opened
    obtain ⟨target, node, rejected, rule, finding, found, _, either⟩ :=
      (meets_of_mem_visits trace schema document root among).exists_of_mem_opened opened
    have matched : ⟨target, node, rule.definition⟩ ∈
        Visit.matched (visits ⟨trace, none⟩ schema document root) :=
      List.mem_filterMap.mpr ⟨visit, among, by rw [finding]; rfl⟩
    have inside : target ∈ places := here target (congrArg (Option.map Prod.fst) found)
    refine closed _ matched inside slot.expectation ?_
    rcases either with rfl | rfl
    · exact List.mem_cons_self
    · exact List.mem_cons_of_mem _ List.mem_cons_self
  obtain ⟨visit, among, isCounted⟩ := List.mem_filterMap.mp counted
  have found : visit.finding.place? = some place := (Option.filter_eq_some_iff.mp isCounted).1
  have met := meets_of_mem_visits trace schema document root among
  exact leads visit among place (met.place?_eq_target?.symm.trans found)

/-- The entries about nodes that are bound, but for the one about the header. -/
theorem map_node_nodeMatched :
    ((verify ⟨trace, none⟩ catalog schema document root filePath).diagnostics.filter fun entry =>
        entry.code == .nodeMatched && entry.path != Header.path).map Diagnostic.node =
      if trace then
        (Visit.matched (visits ⟨trace, none⟩ schema document root)).map fun bound =>
          some bound.place
      else [] := by
  have outcome : Code.nodeMatched ∈ Code.outcomeCodes := by decide
  have header : (Header.check trace catalog schema (document.follow root)).2.filter
      (fun entry => entry.code == .nodeMatched && entry.path != Header.path) = [] := by
    refine List.filter_eq_nil_iff.mpr fun entry member => ?_
    rw [Header.path_of_mem_check _ _ _ _ member]
    simp
  have walked : (Visit.allEntries trace (visits ⟨trace, none⟩ schema document root)).filter
      (fun entry => entry.code == .nodeMatched && entry.path != Header.path) =
      (Visit.allEntries trace (visits ⟨trace, none⟩ schema document root)).filter
        fun entry => entry.code == .nodeMatched := by
    refine List.filter_congr fun entry member => ?_
    obtain ⟨way, located⟩ := exists_located ⟨trace, none⟩ schema document root member
    rw [located.path, bne_iff_ne.mpr way.text_ne_headerPath, Bool.and_true]
  rw [filter_diagnostics_verify _ _ _ _ _ _ fun entry kept => ?_, header, List.nil_append, walked,
    Visit.map_node_filter_allEntries outcome]
  · cases trace with
    | true => exact Visit.map_place?_of_nodeMatched _
    | false => simp
  · rw [Bool.and_eq_true, beq_iff_eq] at kept
    rw [kept.1]
    exact outcome

/-- No link is lost and no node is judged twice: the accounts of a verification without a limit are
in order for every schema and every document, whatever its links, with tracing or without. -/
theorem accounted_verify :
    Accounted trace schema document root (visits ⟨trace, none⟩ schema document root)
      (verify ⟨trace, none⟩ catalog schema document root filePath) := by
  have unidentified := map_node_byCode_verify ⟨trace, none⟩ catalog schema document root filePath
    (by decide : Code.unidentifiedNode ∈ Code.walkFailures)
  have leads := leadsInto_countedPlaces trace schema document root
  have split := Visit.countedPlaces_perm (visits ⟨trace, none⟩ schema document root)
  rw [← unidentified] at split
  refine
    { stored := ?stored
      nodup := (Walk.nodup_countedPlaces [] _).1
      counted := (Visit.length_countedPlaces _).symm
      least := ⟨leads, ?leastBound⟩
      reached := ⟨?closed, ?reachedBound⟩
      split := split
      total := ?total
      traced := map_node_nodeMatched trace catalog schema document root filePath
      missing := ?missing
      repeated := ?repeated }
  case stored =>
    intro bound member
    obtain ⟨visit, among, found⟩ := List.mem_filterMap.mp member
    exact (meets_of_mem_visits trace schema document root among).stored_of_match? found
  case leastBound =>
    intro places closed place counted
    refine mem_of_mem_countedPlaces trace schema document root
      (closed _ List.mem_cons_self) (fun bound matched _ expectation among => ?_) counted
    exact closed expectation
      (List.mem_cons_of_mem _ (List.mem_flatMap.mpr ⟨bound, matched, among⟩))
  case closed =>
    refine ⟨leads _ List.mem_cons_self, fun bound matched _ expectation among => ?_⟩
    exact leads expectation
      (List.mem_cons_of_mem _ (List.mem_flatMap.mpr ⟨bound, matched, among⟩))
  case reachedBound =>
    intro places closed place counted
    exact mem_of_mem_countedPlaces trace schema document root closed.1 closed.2 counted
  case total =>
    have lengths := split.length_eq
    rw [List.length_map, List.length_append, List.length_map, List.length_map,
      Visit.length_countedPlaces] at lengths
    exact lengths
  case missing =>
    rw [countP_expectations, length_byCode_verify _ _ _ _ _ _ (by decide)]
    refine List.countP_congr fun visit member => ?_
    rw [(meets_of_mem_visits trace schema document root member).code?_missingNode]
    rfl
  case repeated =>
    rw [countP_expectations, length_byCode_verify _ _ _ _ _ _ (by decide), counted_verify,
      Visit.countP_cyclicLink_add_countNodes]
    refine List.countP_congr fun visit member => ?_
    rw [← (meets_of_mem_visits trace schema document root member).isMet_eq rfl]
    rfl

end Verification

end TreeSchema
