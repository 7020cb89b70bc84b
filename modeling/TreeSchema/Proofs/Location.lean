/-
This file proves that the path of an entry locates the node that the entry is about. The
index and the names in a path are handed down from slot to slot while the walk follows
links, far from the header. That they stay true to the links is kept by every single visit:
where a node is bound, the way to its first child is one link longer than the way to the
node, and so is the way to its next sibling. The slots that wait lie on ways of which none
leads on from another, and opening two slots in the place of one keeps them so. Hence no two
visits are made at the end of one way, and as the text of a way can be read back, no two
visits leave entries at one path.
-/
import TreeSchema.Proofs.Binding
import TreeSchema.Proofs.Visits
import TreeSchema.Proofs.Ways

namespace TreeSchema

/-! ### The slots that a bound node opens -/

/-- A slot that a visit opens is one link further than the slot of the visit, where a node was
bound. -/
theorem Walk.Meets.exists_of_mem_opened {walk : Walk} {visit : Visit}
    (meets : walk.Meets visit) {slot : Slot} (member : slot ∈ visit.opened) :
    ∃ place node rejected rule, visit.finding = .bound place node rejected rule ∧
      walk.follow visit.slot.link = some (place, node) ∧
      walk.boundRule visit.slot node = some rule ∧
      (slot = visit.slot.childSlot rule.definition node ∨
        slot = visit.slot.nextSlot rule.definition node) := by
  cases meets with
  | empty nowhere =>
    rw [opened_emptyFinding] at member
    cases member
  | repeated found => cases member
  | overLimit found limited => cases member
  | @counted slot place node found =>
    cases bound : walk.boundRule slot node with
    | none =>
      rw [opened_of_none bound] at member
      cases member
    | some rule =>
      rw [opened_of_some bound, List.mem_cons, List.mem_singleton] at member
      exact ⟨place, node, _, rule, nodeFinding_of_some bound place, found, bound, member⟩

/-- What binds a node is a definition of the schema, under its own name. -/
theorem Schema.find?_of_boundRule {schema : Schema} {document : Document} {limit : Option Limit}
    {slot : Slot} {node : Node} {rule : Rule}
    (bound : (schema.walk document limit).boundRule slot node = some rule) :
    schema.find? rule.definition.name = some rule.definition := by
  obtain ⟨_, name, _, _, found, _⟩ := Schema.bind_tried_iff.mp ⟨rule, bound, rfl⟩
  rw [(Schema.mem_of_find? found).2, found]

/-! ### Where a way leads -/

/-- A visit binds the definition of the name to the node to which the way leads. -/
def Way.Binds (schema : Schema) (document : Document) (root : Option Nat) (visits : List Visit)
    (way : Way) (name : String) : Prop :=
  ∃ visit ∈ visits, visit.slot.way = way ∧ ∃ place node rejected rule,
    visit.finding = .bound place node rejected rule ∧
    document.reach root way.chain = some place ∧ document.node? place = some node ∧
    schema.find? name = some rule.definition

/-- The way leads from the header to the target, or to where a node is missing: the place before the
last link is that of the header or exists, and each name on the way is that of the definition that
is bound there. -/
structure Way.LeadsTo (schema : Schema) (document : Document) (root : Option Nat)
    (visits : List Visit) (way : Way) (target : Option Nat) : Prop where
  reach : document.reach root way.chain = target
  preceded : ∃ before link, way.chain = before ++ [link] ∧
    (before = [] ∨ ∃ place, document.reach root before = some place)
  bound : ∀ name index above, (name, index) :: above <:+ way.steps →
    Way.Binds schema document root visits ⟨above, index⟩ name

/-- The way to a slot leads to what the link of the slot leads to. -/
def Slot.Placed (schema : Schema) (document : Document) (root : Option Nat) (visits : List Visit)
    (slot : Slot) : Prop :=
  slot.way.LeadsTo schema document root visits ((document.follow slot.link).map Prod.fst)

section Placed

variable {schema : Schema} {document : Document} {root : Option Nat} {visits : List Visit}

/-- The names on a way that leads somewhere are names of definitions. -/
theorem Way.LeadsTo.named {way : Way} {target : Option Nat}
    (leads : way.LeadsTo schema document root visits target) : way.Named := by
  intro step member
  obtain ⟨nearer, above, split⟩ := List.append_of_mem member
  obtain ⟨_, _, _, _, _, _, rule, _, _, _, found⟩ :=
    leads.bound step.1 step.2 above ⟨nearer, split.symm⟩
  obtain ⟨inSchema, name⟩ := Schema.mem_of_find? found
  rw [← name]
  exact schema.isName_of_mem inSchema

/-- The first slot is one next sibling away from the header. -/
theorem Slot.placed_firstSlot :
    (Verification.firstSlot schema (document.afterHeader root)).Placed schema document root
      visits := by
  refine ⟨?reach, ⟨[], .next, rfl, Or.inl rfl⟩, ?bound⟩
  case reach =>
    show (document.follow root).bind (fun found => document.reach found.2.next []) =
      (document.follow ((document.follow root).bind fun found => found.2.next)).map Prod.fst
    cases document.follow root with
    | none => rfl
    | some found => rfl
  case bound =>
    intro name index above suffix
    exact absurd (List.suffix_nil.mp suffix) (List.cons_ne_nil _ _)

/-- A visit hands on to the slots that it opens where the way to its own slot leads. -/
theorem Slot.Placed.opened {limit : Option Limit} {visit : Visit}
    (meets : (schema.walk document limit).Meets visit) (member : visit ∈ visits)
    (placed : visit.slot.Placed schema document root visits) {slot : Slot}
    (opened : slot ∈ visit.opened) : slot.Placed schema document root visits := by
  obtain ⟨place, node, rejected, rule, finding, found, binding, either⟩ :=
    meets.exists_of_mem_opened opened
  have leads : document.follow visit.slot.link = some (place, node) := found
  have stored : document.node? place = some node := (Document.follow_eq_some_iff.mp leads).2
  have here : document.reach root visit.slot.way.chain = some place := by
    rw [placed.reach, leads]
    rfl
  have further (link : Link) : document.reach root (visit.slot.way.chain ++ [link]) =
      (document.follow (node.link link)).map Prod.fst :=
    Document.reach_concat here stored link
  rcases either with rfl | rfl
  · refine ⟨further .child, ⟨_, .child, Way.chain_childSlot .., Or.inr ⟨place, here⟩⟩, ?_⟩
    intro name index above suffix
    rcases List.suffix_cons_iff.mp suffix with step | suffix
    · obtain ⟨pair, rfl⟩ := List.cons.inj step
      obtain ⟨rfl, rfl⟩ := Prod.mk.inj pair
      exact ⟨visit, member, rfl, place, node, rejected, rule, finding, here, stored,
        Schema.find?_of_boundRule binding⟩
    · exact placed.bound name index above suffix
  · refine ⟨?_, ⟨_, .next, Way.chain_nextSlot .., Or.inr ⟨place, here⟩⟩, placed.bound⟩
    rw [Way.chain_nextSlot]
    exact further .next

/-- The way to the slot of every visit of a verification leads where the link of the slot does. -/
theorem Verification.placed_of_mem_visits {options : Options} {visit : Visit}
    (member : visit ∈ Verification.visits options schema document root) :
    visit.slot.Placed schema document root
      (Verification.visits options schema document root) := by
  refine Walk.forall_slot ?_ ?_ visit member
  · exact List.forall_mem_singleton.mpr Slot.placed_firstSlot
  · intro other among placed slot opened
    exact placed.opened (Walk.meets_of_mem among) among opened

end Placed

/-! ### No two visits at the end of one way -/

/-- The way to neither slot leads on from the way to the other one. -/
def Slot.Apart (slot other : Slot) : Prop :=
  ¬ slot.way.chain <+: other.way.chain ∧ ¬ other.way.chain <+: slot.way.chain

namespace Slot

/-- A slot on a way that leads on from one of two slots that are apart is apart from the other. -/
theorem Apart.of_leadsOn {slot other further : Slot} (apart : slot.Apart other)
    (leadsOn : slot.way.chain <+: further.way.chain) : further.Apart other := by
  refine ⟨fun within => apart.1 (leadsOn.trans within), fun within => ?_⟩
  rcases List.prefix_or_prefix_of_prefix leadsOn within with before | before
  · exact apart.1 before
  · exact apart.2 before

/-- The slots of the first child and of the next sibling are apart. -/
theorem apart_childSlot_nextSlot (slot : Slot) (definition : Definition) (node : Node) :
    (slot.childSlot definition node).Apart (slot.nextSlot definition node) := by
  simp [Apart, Way.chain_childSlot, Way.chain_nextSlot, List.prefix_append_right_inj]

end Slot

namespace Walk

variable {walk : Walk} {seen : List Nat} {waiting : List Slot}

/-- The way to a slot that a visit opens leads on, by one link. -/
theorem Meets.exists_chain_of_mem_opened {visit : Visit} (meets : walk.Meets visit) {slot : Slot}
    (member : slot ∈ visit.opened) : ∃ link, slot.way.chain = visit.slot.way.chain ++ [link] := by
  obtain ⟨_, node, _, rule, _, _, _, rfl | rfl⟩ := meets.exists_of_mem_opened member
  · exact ⟨.child, Way.chain_childSlot ..⟩
  · exact ⟨.next, Way.chain_nextSlot ..⟩

/-- The way to every visit leads on from a slot that waits. -/
theorem exists_prefix_of_mem {visit : Visit} (member : visit ∈ walk.visits seen waiting) :
    ∃ slot ∈ waiting, slot.way.chain <+: visit.slot.way.chain := by
  let leadsOn (further : Slot) : Prop := ∃ slot ∈ waiting, slot.way.chain <+: further.way.chain
  refine @forall_slot walk seen waiting leadsOn ?_ ?_ visit member
  · exact fun slot waits => ⟨slot, waits, List.prefix_rfl⟩
  intro other among known opened isOpened
  obtain ⟨slot, waits, leadsOn⟩ := known
  obtain ⟨link, chain⟩ := (meets_of_mem among).exists_chain_of_mem_opened isOpened
  refine ⟨slot, waits, leadsOn.trans ?_⟩
  rw [chain]
  exact List.prefix_append _ _

/-- No later visit is made at the end of a way that leads on from none of the slots that wait. -/
theorem chain_ne_of_not_prefix {slot : Slot}
    (aside : ∀ other ∈ waiting, ¬ other.way.chain <+: slot.way.chain) {visit : Visit}
    (member : visit ∈ walk.visits seen waiting) : slot.way.chain ≠ visit.slot.way.chain := by
  intro same
  obtain ⟨other, waits, leadsOn⟩ := exists_prefix_of_mem member
  rw [← same] at leadsOn
  exact aside other waits leadsOn

/-- Opening slots in the place of one keeps the slots that wait apart. -/
theorem pairwise_apart_opened {visit : Visit} (meets : walk.Meets visit) {rest : List Slot}
    (apart : (visit.slot :: rest).Pairwise Slot.Apart) :
    (visit.opened ++ rest).Pairwise Slot.Apart := by
  rw [List.pairwise_cons] at apart
  refine List.pairwise_append.mpr ⟨?_, apart.2, fun slot isOpened other waits => ?_⟩
  · cases finding : visit.finding with
    | bound place node rejected rule =>
      simp [Visit.opened, finding, Slot.apart_childSlot_nextSlot]
    | _ => simp [Visit.opened, finding]
  · obtain ⟨link, chain⟩ := meets.exists_chain_of_mem_opened isOpened
    refine (apart.1 other waits).of_leadsOn ?_
    rw [chain]
    exact List.prefix_append _ _

/-- If the slots that wait are apart, no two visits are made at the end of one way. -/
theorem pairwise_chain_ne (apart : waiting.Pairwise Slot.Apart) :
    (walk.visits seen waiting).Pairwise
      fun visit other => visit.slot.way.chain ≠ other.slot.way.chain := by
  induction seen, waiting using visits_induction walk with
  | nil seen =>
    rw [visits_nil]
    exact .nil
  | empty seen slot rest nowhere inductionHypothesis =>
    rw [List.pairwise_cons] at apart
    rw [visits_empty nowhere, List.pairwise_cons]
    exact ⟨fun _ => chain_ne_of_not_prefix fun other waits => (apart.1 other waits).2,
      inductionHypothesis apart.2⟩
  | repeated seen slot rest place node found known inductionHypothesis =>
    rw [List.pairwise_cons] at apart
    rw [visits_repeated found known, List.pairwise_cons]
    exact ⟨fun _ => chain_ne_of_not_prefix fun other waits => (apart.1 other waits).2,
      inductionHypothesis apart.2⟩
  | overLimit seen slot rest place node limit found fresh exceeded =>
    rw [visits_overLimit found fresh exceeded]
    exact List.pairwise_singleton _ _
  | counted seen slot rest place node found fresh within inductionHypothesis =>
    have meets : walk.Meets ⟨slot, walk.nodeFinding slot place node⟩ := .counted found
    rw [visits_counted found fresh within, List.pairwise_cons]
    refine ⟨fun _ => chain_ne_of_not_prefix fun other waits leadsOn => ?_,
      inductionHypothesis (pairwise_apart_opened meets apart)⟩
    -- the way to an opened slot is longer than this one, and the other slots are apart from it
    rcases List.mem_append.mp waits with isOpened | inRest
    · obtain ⟨link, chain⟩ := meets.exists_chain_of_mem_opened isOpened
      rw [chain] at leadsOn
      have shorter := leadsOn.length_le
      rw [List.length_append, List.length_singleton] at shorter
      exact absurd shorter (Nat.not_succ_le_self _)
    · exact ((List.pairwise_cons.mp apart).1 other inRest).2 leadsOn

end Walk

/-- No two visits of a verification are made at the end of one way, or at one path. -/
theorem Verification.pairwise_visits (options : Options) (schema : Schema) (document : Document)
    (root : Option Nat) :
    (visits options schema document root).Pairwise fun visit other =>
      visit.slot.way.chain ≠ other.slot.way.chain ∧ visit.slot.path ≠ other.slot.path := by
  have apart : (visits options schema document root).Pairwise fun visit other =>
      visit.slot.way.chain ≠ other.slot.way.chain :=
    Walk.pairwise_chain_ne (List.pairwise_singleton _ _)
  refine List.Pairwise.imp_of_mem (fun member otherMember different => ⟨different, ?_⟩) apart
  intro same
  have ways := Way.text_injective (placed_of_mem_visits member).named
    (placed_of_mem_visits otherMember).named same
  exact different (congrArg Way.chain ways)

/-! ### The entries of a visit -/

/-- Whether an entry says what was found at a path. -/
def Diagnostic.isOutcomeAt (path : String) (entry : Diagnostic) : Bool :=
  entry.path == path && entry.code ∈ Code.outcomeCodes

theorem Diagnostic.outcome_of_isOutcomeAt {path : String} {entry : Diagnostic}
    (isOutcome : entry.isOutcomeAt path = true) : entry.code ∈ Code.outcomeCodes := by
  rw [isOutcomeAt, Bool.and_eq_true, decide_eq_true_eq] at isOutcome
  exact isOutcome.2

theorem countP_isOutcomeAt_of_path_ne {path : String} {entries : List Diagnostic}
    (elsewhere : ∀ entry ∈ entries, entry.path ≠ path) :
    entries.countP (Diagnostic.isOutcomeAt path) = 0 := by
  refine List.countP_eq_zero.mpr fun entry member => ?_
  simp [Diagnostic.isOutcomeAt, elsewhere entry member]

theorem countP_isOutcomeAt_of_code {path : String} {entries : List Diagnostic}
    (other : ∀ entry ∈ entries, entry.code ∉ Code.outcomeCodes) :
    entries.countP (Diagnostic.isOutcomeAt path) = 0 := by
  refine List.countP_eq_zero.mpr fun entry member => ?_
  simp [Diagnostic.isOutcomeAt, other entry member]

namespace Visit

/-- Every entry of a visit has the path of its slot and points at the node that is found, which only
a missing node is not. -/
theorem pointing_of_mem_entries {trace : Bool} {visit : Visit} {entry : Diagnostic}
    (member : entry ∈ visit.entries trace) :
    entry.path = visit.slot.path ∧ entry.node = visit.finding.place? ∧
      (entry.node = none ↔ entry.code = .missingNode) := by
  have pointing {place : Nat} (points : entry.node = some place)
      (present : entry.code ≠ .missingNode) :
      entry.node = none ↔ entry.code = .missingNode :=
    iff_of_false (points ▸ Option.some_ne_none place) present
  rw [entries_eq, List.mem_append, Option.mem_toList] at member
  rcases member with inVain | said
  · obtain ⟨place, node, rule, found, rfl⟩ := exists_of_mem_trialEntries inVain
    exact ⟨rfl, found.symm, pointing rfl Code.noConfusion⟩
  · obtain ⟨slot, finding⟩ := visit
    cases finding with
    | absent => cases said
    | missing =>
      cases said
      exact ⟨rfl, rfl, iff_of_true rfl rfl⟩
    | repeated place node =>
      cases said
      exact ⟨rfl, rfl, pointing rfl Code.noConfusion⟩
    | overLimit place limit =>
      cases said
      exact ⟨rfl, rfl, pointing rfl Code.noConfusion⟩
    | unidentified place node rejected =>
      cases said
      exact ⟨rfl, rfl, pointing rfl Code.noConfusion⟩
    | bound place node rejected rule =>
      cases trace with
      | false => cases said
      | true =>
        cases said
        exact ⟨rfl, rfl, pointing rfl Code.noConfusion⟩

/-- A visit leaves at most one entry that says what was found. -/
theorem countP_isOutcomeAt_entries_le (trace : Bool) (path : String) (visit : Visit) :
    (visit.entries trace).countP (Diagnostic.isOutcomeAt path) ≤ 1 := by
  have trials : (visit.trialEntries trace).countP (Diagnostic.isOutcomeAt path) = 0 := by
    refine countP_isOutcomeAt_of_code fun entry member => ?_
    rw [code_of_mem_trialEntries member]
    decide
  rw [entries_eq, List.countP_append, trials, Nat.zero_add]
  refine Nat.le_trans List.countP_le_length ?_
  cases visit.outcome? trace with
  | none => exact Nat.zero_le _
  | some entry => exact Nat.le_refl _

/-- Visits at different paths leave at most one entry at one path that says what was found. -/
theorem countP_isOutcomeAt_allEntries_le (trace : Bool) (path : String) {visits : List Visit}
    (apart : visits.Pairwise fun visit other => visit.slot.path ≠ other.slot.path) :
    (allEntries trace visits).countP (Diagnostic.isOutcomeAt path) ≤ 1 := by
  induction visits with
  | nil => exact Nat.zero_le _
  | cons visit rest inductionHypothesis =>
    rw [List.pairwise_cons] at apart
    rw [allEntries, List.flatMap_cons, List.countP_append, ← allEntries]
    by_cases here : visit.slot.path = path
    · have later : (allEntries trace rest).countP (Diagnostic.isOutcomeAt path) = 0 := by
        refine countP_isOutcomeAt_of_path_ne fun entry member => ?_
        obtain ⟨other, inRest, inOther⟩ := List.mem_flatMap.mp member
        rw [(pointing_of_mem_entries inOther).1, ← here]
        exact (apart.1 other inRest).symm
      rw [later]
      exact countP_isOutcomeAt_entries_le trace path visit
    · have first : (visit.entries trace).countP (Diagnostic.isOutcomeAt path) = 0 := by
        refine countP_isOutcomeAt_of_path_ne fun entry member => ?_
        rw [(pointing_of_mem_entries member).1]
        exact here
      rw [first, Nat.zero_add]
      exact inductionHypothesis apart.2

end Visit

/-! ### The entries about the header -/

namespace Header

variable (trace : Bool) (catalog : Catalog) (schema : Schema) (header : Option (Nat × Node))

/-- The entries about a header have its path, and at most the last of them is no mismatch. -/
theorem exists_check_eq : ∃ mismatches last,
    (check trace catalog schema header).2 = mismatches ++ last ∧
      (∀ entry ∈ mismatches, entry.path = path ∧ entry.code = .headerMismatch) ∧
      (∀ entry ∈ last, entry.path = path) ∧ last.length ≤ 1 := by
  cases header with
  | none => exact ⟨[], _, rfl, by simp, List.forall_mem_singleton.mpr rfl, Nat.le_refl _⟩
  | some found =>
    obtain ⟨place, node⟩ := found
    have titles : ∀ entry ∈ titleEntries catalog place node,
        entry.path = path ∧ entry.code = .headerMismatch := by
      intro entry member
      unfold titleEntries at member
      split at member
      · cases member
      · cases List.mem_singleton.mp member
        exact ⟨rfl, rfl⟩
    unfold check
    dsimp only
    split
    · refine ⟨_, _, rfl, titles, ?_⟩
      split
      · exact ⟨List.forall_mem_singleton.mpr rfl, Nat.le_refl _⟩
      · exact ⟨by simp, Nat.zero_le _⟩
    · exact ⟨_, _, rfl, titles, List.forall_mem_singleton.mpr rfl, Nat.le_refl _⟩

theorem path_of_mem_check {entry : Diagnostic}
    (member : entry ∈ (check trace catalog schema header).2) : entry.path = path := by
  obtain ⟨mismatches, last, split, mismatch, final, _⟩ :=
    exists_check_eq trace catalog schema header
  rw [split, List.mem_append] at member
  rcases member with inMismatches | inLast
  · exact (mismatch entry inMismatches).1
  · exact final entry inLast

theorem countP_isOutcomeAt_check_le (text : String) :
    (check trace catalog schema header).2.countP (Diagnostic.isOutcomeAt text) ≤ 1 := by
  obtain ⟨mismatches, last, split, mismatch, _, single⟩ :=
    exists_check_eq trace catalog schema header
  have none : mismatches.countP (Diagnostic.isOutcomeAt text) = 0 := by
    refine countP_isOutcomeAt_of_code fun entry member => ?_
    rw [(mismatch entry member).2]
    decide
  rw [split, List.countP_append, none, Nat.zero_add]
  exact Nat.le_trans List.countP_le_length single

end Header

/-- The path of the header is not that of a slot. -/
theorem Way.text_ne_headerPath (way : Way) : way.text ≠ Header.path := by
  intro same
  have hash : '#' ∈ way.text.toList := by
    rw [toList_text]
    exact List.mem_append_right _ List.mem_cons_self
  rw [same] at hash
  exact absurd hash (by decide)

/-! ### The paths of a report -/

/-- The path of an entry can be read in one way only, and the way leads to the node that the entry
points at, or to where a node is missing. -/
structure Diagnostic.Located (schema : Schema) (document : Document) (root : Option Nat)
    (visits : List Visit) (entry : Diagnostic) (way : Way) : Prop where
  path : entry.path = way.text
  named : way.Named
  only : ∀ other : Way, other.Named → entry.path = other.text → other = way
  leads : way.LeadsTo schema document root visits entry.node
  missing : entry.node = none ↔ entry.code = .missingNode

section Report

variable (options : Options) (catalog : Catalog) (schema : Schema) (document : Document)
  (root : Option Nat) (filePath : String)

/-- The entries that report visits are located by their paths. -/
theorem Verification.exists_located {entry : Diagnostic}
    (member : entry ∈ Visit.allEntries options.trace (visits options schema document root)) :
    ∃ way, entry.Located schema document root (visits options schema document root) way := by
  obtain ⟨visit, among, inVisit⟩ := List.mem_flatMap.mp member
  obtain ⟨path, points, missing⟩ := Visit.pointing_of_mem_entries inVisit
  have placed := placed_of_mem_visits among
  have meets : (schema.walk document options.limit).Meets visit := Walk.meets_of_mem among
  refine ⟨visit.slot.way, path, placed.named, ?only, ?leads, missing⟩
  case only =>
    intro other named same
    exact Way.text_injective named placed.named (same.symm.trans path)
  case leads =>
    rw [points, meets.place?]
    exact placed

/-- At one path, a report says at most once what was found there. -/
theorem countP_isOutcomeAt_verify_le (path : String) :
    (verify options catalog schema document root filePath).diagnostics.countP
      (Diagnostic.isOutcomeAt path) ≤ 1 := by
  rw [List.countP_eq_length_filter,
    filter_diagnostics_verify _ _ _ _ _ _ fun entry => Diagnostic.outcome_of_isOutcomeAt,
    List.length_append, ← List.countP_eq_length_filter, ← List.countP_eq_length_filter]
  by_cases header : path = Header.path
  · have walked : (Visit.allEntries options.trace
        (Verification.visits options schema document root)).countP
        (Diagnostic.isOutcomeAt path) = 0 := by
      refine countP_isOutcomeAt_of_path_ne fun entry member => ?_
      obtain ⟨way, located⟩ := Verification.exists_located options schema document root member
      rw [located.path, header]
      exact way.text_ne_headerPath
    rw [walked]
    exact Header.countP_isOutcomeAt_check_le _ _ _ _ _
  · have checked : (Header.check options.trace catalog schema (document.follow root)).2.countP
        (Diagnostic.isOutcomeAt path) = 0 := by
      refine countP_isOutcomeAt_of_path_ne fun entry member => ?_
      rw [Header.path_of_mem_check _ _ _ _ member]
      exact Ne.symm header
    rw [checked, Nat.zero_add]
    exact Visit.countP_isOutcomeAt_allEntries_le _ _
      ((Verification.pairwise_visits options schema document root).imp And.right)

/-- The paths of a report locate what its entries are about, whatever the schema, the document with
its links, and the options. An entry is about the file, and has no path, or about the header, or it
reports a visit, and then its path shows a way from the header to the node it points at. No two
visits are made at the end of one way or at one path, so that each path carries at most one entry
that says what was found there. -/
theorem verify_located :
    (∀ entry ∈ (verify options catalog schema document root filePath).diagnostics,
      (entry.path = "" ∧ entry.code ∈ [.start, .extensionMismatch, .verdict]) ∨
      (entry.path = Header.path ∧ entry.code ∈ [.headerMismatch, .nodeMatched]) ∨
      (entry.code ∈ Code.walkCodes ∧ ∃ way, entry.Located schema document root
        (Verification.visits options schema document root) way)) ∧
    (Verification.visits options schema document root).Pairwise (fun visit other =>
      visit.slot.way.chain ≠ other.slot.way.chain ∧ visit.slot.path ≠ other.slot.path) ∧
    ∀ path, (verify options catalog schema document root filePath).diagnostics.countP
      (Diagnostic.isOutcomeAt path) ≤ 1 := by
  refine ⟨fun entry member => ?_, Verification.pairwise_visits options schema document root,
    countP_isOutcomeAt_verify_le options catalog schema document root filePath⟩
  rw [diagnostics_verify_eq_trail, Verification.trail] at member
  simp only [List.mem_append] at member
  rcases member with opening | extension | header | walked | closing
  · cases List.mem_singleton.mp opening
    exact Or.inl ⟨rfl, (by decide : Code.start ∈ _)⟩
  · unfold Verification.extensionEntries at extension
    split at extension
    · cases extension
    · cases List.mem_singleton.mp extension
      exact Or.inl ⟨rfl, (by decide : Code.extensionMismatch ∈ _)⟩
  · refine Or.inr (Or.inl ⟨Header.path_of_mem_check _ _ _ _ header, ?_⟩)
    exact (concern_check options.trace catalog schema (document.follow root) entry header).1
  · refine Or.inr (Or.inr ⟨?_, Verification.exists_located _ _ _ _ walked⟩)
    exact (concern_allEntries options.trace _ entry walked).1
  · rw [List.mem_singleton.mp closing]
    generalize Report.ok _ = ok
    cases ok <;> exact Or.inl ⟨rfl, (by decide : Code.verdict ∈ _)⟩

end Report

end TreeSchema
