/-
This file proves that a traced trail explains what becomes of every node. The candidates for a
node are compared with it twice: once to choose, where the data is looked at only if the title
matches, and once more to say what is wrong, where both texts are looked at. The two comparisons
agree for every definition of a schema, so a candidate that is passed over always has a reason,
and the reason names those of the two texts that do not match. What a visit leaves in the trail
then follows from what its link leads to and from the nodes that were counted before it. Since no
two visits are made at one path, and none at the path of the header, the entries at the path of a
visit are those that this visit left, although they stand among those of all others.
-/
import TreeSchema.Proofs.Positions

namespace TreeSchema

/-! ### The two comparisons -/

/-- The written template can be read, and the text is in its language. -/
def Template.Fits (written text : String) : Prop :=
  ∃ template, read written = .ok template ∧ Matches [] template text.toList

theorem Template.fits_iff_matchesText {written text : String} {template : Template}
    (isRead : read written = .ok template) :
    Fits written text ↔ template.matchesText text = true := by
  rw [matchesText, matchesList_iff]
  constructor
  · rintro ⟨other, otherRead, matched⟩
    cases isRead.symm.trans otherRead
    exact matched
  · exact fun matched => ⟨template, isRead, matched⟩

namespace Definition

variable {definition : Definition} {node : Node}

theorem accepts_iff_fits : definition.Accepts node ↔
    Template.Fits definition.title node.title ∧ Template.Fits definition.data node.data := by
  constructor
  · rintro ⟨title, data, titleRead, dataRead, titleMatches, dataMatches⟩
    exact ⟨⟨title, titleRead, titleMatches⟩, ⟨data, dataRead, dataMatches⟩⟩
  · rintro ⟨⟨title, titleRead, titleMatches⟩, ⟨data, dataRead, dataMatches⟩⟩
    exact ⟨title, data, titleRead, dataRead, titleMatches, dataMatches⟩

/-- The title of a node does not fit. -/
def titleMisfit (definition : Definition) (node : Node) : String :=
  "title " ++ Text.quoted node.title ++ " !~ " ++ Text.quoted definition.title

/-- The data of a node does not fit. -/
def dataMisfit (definition : Definition) (node : Node) : String :=
  "data " ++ Text.quoted node.data ++ " !~ " ++ Text.quoted definition.data

/-- The reason names those of the two texts of a node that do not fit, of which there is one. -/
inductive Refuses (definition : Definition) (node : Node) : String → Prop where
  | title (misfit : ¬ Template.Fits definition.title node.title)
      (fits : Template.Fits definition.data node.data) :
      Refuses definition node (definition.titleMisfit node)
  | data (fits : Template.Fits definition.title node.title)
      (misfit : ¬ Template.Fits definition.data node.data) :
      Refuses definition node (definition.dataMisfit node)
  | both (titleMisfit : ¬ Template.Fits definition.title node.title)
      (dataMisfit : ¬ Template.Fits definition.data node.data) :
      Refuses definition node (definition.titleMisfit node ++ "; " ++ definition.dataMisfit node)

theorem Refuses.not_accepts {reason : String} (refuses : definition.Refuses node reason) :
    ¬ definition.Accepts node := by
  rw [accepts_iff_fits]
  cases refuses with
  | title misfit _ => exact fun fits => misfit fits.1
  | data _ misfit => exact fun fits => misfit fits.2
  | both misfit _ => exact fun fits => misfit fits.1

/-- Both comparisons find that the definition accepts the node. -/
structure Suits (definition : Definition) (node : Node) : Prop where
  accepts : definition.Accepts node
  matched : definition.matchesNode node.title node.data = .ok true
  explained : definition.mismatch node.title node.data = .ok none

/-- Both comparisons find that the definition does not accept the node, the second one with the
reason given. -/
structure Differs (definition : Definition) (node : Node) (reason : String) : Prop where
  rejects : ¬ definition.Accepts node
  refuses : definition.Refuses node reason
  matched : definition.matchesNode node.title node.data = .ok false
  explained : definition.mismatch node.title node.data = .ok (some reason)

end Definition

namespace Rule

variable {definition : Definition} {rule : Rule} {node : Node}

theorem suits_of_accepts (made : ofDefinition? definition = some rule)
    (accepted : rule.accepts node = true) : definition.Suits node where
  accepts := (accepts_iff made).mp accepted
  matched := by rw [matchesNode_eq_ok made, accepted]
  explained := by rw [mismatch_eq_ok made, rejection_eq_none_iff.mpr accepted]

/-- A rule that does not accept gives the reason that names what does not match. -/
theorem exists_refuses (made : ofDefinition? definition = some rule)
    (rejected : rule.accepts node = false) :
    ∃ reason, rule.rejection node = some reason ∧ definition.Refuses node reason := by
  obtain ⟨same, titleRead, dataRead⟩ := ofDefinition?_eq_some_iff.mp made
  have title : Template.Fits definition.title node.title ↔ rule.title.matchesText node.title :=
    Template.fits_iff_matchesText titleRead
  have data : Template.Fits definition.data node.data ↔ rule.data.matchesText node.data :=
    Template.fits_iff_matchesText dataRead
  rw [accepts] at rejected
  rw [rejection, same]
  cases titleMatches : rule.title.matchesText node.title with
  | true =>
    -- the title fits, so it is the data that does not
    rw [titleMatches, Bool.true_and] at rejected
    rw [titleMatches] at title
    rw [rejected] at data ⊢
    exact ⟨_, rfl, .data (title.mpr rfl) (mt data.mp Bool.false_ne_true)⟩
  | false =>
    rw [titleMatches] at title
    have misfit := mt title.mp Bool.false_ne_true
    cases dataMatches : rule.data.matchesText node.data with
    | true => exact ⟨_, rfl, .title misfit (data.mpr dataMatches)⟩
    | false =>
      rw [dataMatches] at data
      exact ⟨_, rfl, .both misfit (mt data.mp Bool.false_ne_true)⟩

theorem exists_differs (made : ofDefinition? definition = some rule)
    (rejected : rule.accepts node = false) :
    ∃ reason, rule.rejection node = some reason ∧ definition.Differs node reason := by
  obtain ⟨reason, given, refuses⟩ := exists_refuses made rejected
  refine ⟨reason, given, refuses.not_accepts, refuses, ?matched, ?explained⟩
  case matched => rw [matchesNode_eq_ok made, rejected]
  case explained => rw [mismatch_eq_ok made, given]

end Rule

/-! ### The candidates for a node -/

namespace Schema

variable {schema : Schema} {path : String} {place : Nat} {node : Node}

/-- The entry says that the definition of the name does not accept the node, and why. -/
def Rejects (schema : Schema) (path : String) (place : Nat) (node : Node) (name : String)
    (entry : Diagnostic) : Prop :=
  ∃ definition reason, schema.find? name = some definition ∧ definition.Differs node reason ∧
    entry = ⟨.debug, .candidateRejected, "not " ++ name ++ ": " ++ reason, path, some place⟩

/-- What comes of candidates: the first of them that accepts the node, if one does, and one entry
about each candidate that is a name and comes before it, in the order of the candidates. -/
inductive Tries (schema : Schema) (path : String) (place : Nat) (node : Node)
    (candidates : List Reference) : List Diagnostic → Option Definition → Prop where
  | accepted {before after : List Reference} {name : String} {definition : Definition}
      {rejections : List Diagnostic} (split : candidates = before ++ .named name :: after)
      (defined : schema.find? name = some definition) (suits : definition.Suits node)
      (rejected : List.Forall₂ (schema.Rejects path place node)
        (before.filterMap Reference.name?) rejections) :
      Tries schema path place node candidates rejections (some definition)
  | exhausted {rejections : List Diagnostic}
      (rejected : List.Forall₂ (schema.Rejects path place node)
        (candidates.filterMap Reference.name?) rejections) :
      Tries schema path place node candidates rejections none

namespace Tries

variable {candidates : List Reference} {rejections : List Diagnostic} {bound : Option Definition}

/-- A candidate that is no name is passed over in silence. -/
theorem cons_unnamed {candidate : Reference} (unnamed : candidate.name? = none)
    (tries : schema.Tries path place node candidates rejections bound) :
    schema.Tries path place node (candidate :: candidates) rejections bound := by
  cases tries with
  | accepted split defined suits rejected =>
    rw [split]
    refine .accepted (List.cons_append ..).symm defined suits ?_
    rw [List.filterMap_cons_none unnamed]
    exact rejected
  | exhausted rejected =>
    refine .exhausted ?_
    rw [List.filterMap_cons_none unnamed]
    exact rejected

/-- A candidate that does not accept is passed over with an entry. -/
theorem cons_rejected {name : String} {entry : Diagnostic}
    (rejects : schema.Rejects path place node name entry)
    (tries : schema.Tries path place node candidates rejections bound) :
    schema.Tries path place node (.named name :: candidates) (entry :: rejections) bound := by
  cases tries with
  | accepted split defined suits rejected =>
    rw [split]
    exact .accepted (List.cons_append ..).symm defined suits (.cons rejects rejected)
  | exhausted rejected => exact .exhausted (.cons rejects rejected)

end Tries

/-- Candidates that resolve are tried in their order, and the entries about the rules that are tried
in vain are those about the candidates. -/
theorem tries_of_resolves {candidates : List Reference} (resolves : schema.Resolves candidates)
    (path : String) (place : Nat) (node : Node) :
    schema.Tries path place node candidates
      ((Rule.bind node (Rule.tried schema.rules candidates)).1.map
        (Visit.rejectedEntry path place node))
      ((Rule.bind node (Rule.tried schema.rules candidates)).2.map Rule.definition) := by
  induction candidates with
  | nil => exact .exhausted .nil
  | cons candidate candidates inductionHypothesis =>
    have later := inductionHypothesis resolves.tail
    cases candidate with
    | absent => exact later.cons_unnamed rfl
    | head => exact later.cons_unnamed rfl
    | named name =>
      obtain ⟨definition, found⟩ := resolves name List.mem_cons_self
      obtain ⟨rule, made, tried⟩ := tried_cons_named found
      have same : rule.definition = definition := (Rule.ofDefinition?_eq_some_iff.mp made).1
      rw [tried, Rule.bind]
      cases accepted : rule.accepts node with
      | true =>
        rw [if_pos rfl, Option.map_some, same]
        exact .accepted (List.nil_append _).symm found (Rule.suits_of_accepts made accepted) .nil
      | false =>
        obtain ⟨reason, given, differs⟩ := Rule.exists_differs made accepted
        rw [if_neg Bool.false_ne_true, List.map_cons]
        refine later.cons_rejected ⟨definition, reason, found, differs, ?_⟩
        rw [Visit.rejectedEntry, given, same, (mem_of_find? found).2]
        rfl

/-- The candidates in every position resolve. -/
theorem Position.resolves {document : Document} {first : Option Nat} {slot : Slot}
    (position : schema.Position document (Verification.firstSlot schema first) slot) :
    schema.Resolves slot.candidates := by
  have neighbours {candidates : List Reference} {node : Node} {definition : Definition}
      (binds : schema.Binds candidates node definition) (relation : Relation) :
      schema.Resolves (definition.neighbours relation).references := by
    obtain ⟨_, _, _, _, found, _⟩ := binds
    exact schema.resolves_neighbours (mem_of_find? found).1 relation
  cases position with
  | first => exact schema.resolves_headCandidates
  | child _ _ binds => exact neighbours binds .children
  | next _ _ binds => exact neighbours binds .nextSiblings

end Schema

/-! ### What is found in a slot -/

namespace Walk

variable {walk : Walk} {seen other : List Nat} {visit : Visit}

/-- What a walk finds in a slot once the nodes at some places were counted. -/
inductive Finds (walk : Walk) (seen : List Nat) : Visit → Prop where
  | empty {slot : Slot} (nowhere : walk.follow slot.link = none) :
      Finds walk seen ⟨slot, emptyFinding slot⟩
  | repeated {slot : Slot} {place : Nat} {node : Node}
      (found : walk.follow slot.link = some (place, node)) (known : place ∈ seen) :
      Finds walk seen ⟨slot, .repeated place node⟩
  | overLimit {slot : Slot} {place : Nat} {node : Node} {limit : Limit}
      (found : walk.follow slot.link = some (place, node)) (fresh : place ∉ seen)
      (exceeded : walk.exceeded? seen.length = some limit) :
      Finds walk seen ⟨slot, .overLimit place limit⟩
  | counted {slot : Slot} {place : Nat} {node : Node}
      (found : walk.follow slot.link = some (place, node)) (fresh : place ∉ seen)
      (within : walk.exceeded? seen.length = none) :
      Finds walk seen ⟨slot, walk.nodeFinding slot place node⟩

/-- The order in which the nodes were counted does not matter. -/
theorem Finds.of_perm (finds : walk.Finds seen visit) (same : seen.Perm other) :
    walk.Finds other visit := by
  cases finds with
  | empty nowhere => exact .empty nowhere
  | repeated found known => exact .repeated found (same.mem_iff.mp known)
  | overLimit found fresh exceeded =>
    exact .overLimit found (mt same.mem_iff.mpr fresh) (same.length_eq ▸ exceeded)
  | counted found fresh within =>
    exact .counted found (mt same.mem_iff.mpr fresh) (same.length_eq ▸ within)

/-- What is found in a visit depends on the nodes that the visits before it counted. -/
theorem finds_of_split {waiting : List Slot} {before after : List Visit}
    (split : walk.visits seen waiting = before ++ visit :: after) :
    walk.Finds (seen ++ Visit.countedPlaces before) visit := by
  induction seen, waiting using visits_induction walk generalizing before with
  | nil seen =>
    rw [visits_nil] at split
    exact absurd split.symm (List.append_ne_nil_of_right_ne_nil _ (List.cons_ne_nil _ _))
  | empty seen slot rest nowhere inductionHypothesis =>
    rw [visits_empty nowhere] at split
    cases before with
    | nil =>
      obtain ⟨rfl, _⟩ := List.cons.inj split
      exact .empty nowhere
    | cons first before =>
      obtain ⟨rfl, later⟩ := List.cons.inj split
      rw [Visit.countedPlaces_cons_of_none (counted?_emptyFinding slot)]
      exact inductionHypothesis later
  | repeated seen slot rest place node found known inductionHypothesis =>
    rw [visits_repeated found known] at split
    cases before with
    | nil =>
      obtain ⟨rfl, _⟩ := List.cons.inj split
      exact .repeated found (List.mem_append_left _ known)
    | cons first before =>
      obtain ⟨rfl, later⟩ := List.cons.inj split
      rw [Visit.countedPlaces_cons_of_none rfl]
      exact inductionHypothesis later
  | overLimit seen slot rest place node limit found fresh exceeded =>
    rw [visits_overLimit found fresh exceeded] at split
    cases before with
    | nil =>
      obtain ⟨rfl, _⟩ := List.cons.inj split
      rw [Visit.countedPlaces, List.filterMap_nil, List.append_nil]
      exact .overLimit found fresh exceeded
    | cons first before =>
      obtain ⟨_, later⟩ := List.cons.inj split
      exact absurd later.symm (List.append_ne_nil_of_right_ne_nil _ (List.cons_ne_nil _ _))
  | counted seen slot rest place node found fresh within inductionHypothesis =>
    rw [visits_counted found fresh within] at split
    cases before with
    | nil =>
      obtain ⟨rfl, _⟩ := List.cons.inj split
      rw [Visit.countedPlaces, List.filterMap_nil, List.append_nil]
      exact .counted found fresh within
    | cons first before =>
      obtain ⟨rfl, later⟩ := List.cons.inj split
      -- the walk puts the node in front of those that were seen, not behind them
      rw [Visit.countedPlaces_cons_of_some (counted?_nodeFinding ..)]
      exact (inductionHypothesis later).of_perm List.perm_middle.symm

end Walk

/-! ### The report of a slot -/

/-- What a traced trail says of a slot once the nodes at some places were counted, and which node is
counted there. -/
inductive Slot.Reported (schema : Schema) (document : Document) (limit : Option Limit)
    (earlier : List Nat) (slot : Slot) : Option Nat → List Diagnostic → Prop where
  | allowed (nowhere : document.follow slot.link = none) (allowed : .absent ∈ slot.candidates) :
      Reported schema document limit earlier slot none []
  | missing (nowhere : document.follow slot.link = none) (required : .absent ∉ slot.candidates) :
      Reported schema document limit earlier slot none
        [Visit.missingEntry slot.path slot.candidates]
  | repeated {place : Nat} {node : Node}
      (found : document.follow slot.link = some (place, node)) (known : place ∈ earlier) :
      Reported schema document limit earlier slot none [Visit.cyclicEntry slot.path place node]
  | overLimit {place : Nat} {node : Node} {most : Limit}
      (found : document.follow slot.link = some (place, node)) (fresh : place ∉ earlier)
      (limited : limit = some most) (exceeded : most.bound < earlier.length + 1) :
      Reported schema document limit earlier slot none [Visit.limitEntry slot.path place most]
  | bound {place : Nat} {node : Node} {definition : Definition} {rejections : List Diagnostic}
      (found : document.follow slot.link = some (place, node)) (fresh : place ∉ earlier)
      (within : ∀ most, limit = some most → earlier.length + 1 ≤ most.bound)
      (tries : schema.Tries slot.path place node slot.candidates rejections (some definition)) :
      Reported schema document limit earlier slot (some place)
        (rejections ++ [Visit.matchedEntry slot.path place node definition])
  | unidentified {place : Nat} {node : Node} {rejections : List Diagnostic}
      (found : document.follow slot.link = some (place, node)) (fresh : place ∉ earlier)
      (within : ∀ most, limit = some most → earlier.length + 1 ≤ most.bound)
      (tries : schema.Tries slot.path place node slot.candidates rejections none) :
      Reported schema document limit earlier slot (some place)
        (rejections ++ [Visit.unidentifiedEntry slot.path place node slot.candidates])

/-- A traced visit leaves the report of its slot. -/
theorem Walk.Finds.reported {schema : Schema} {document : Document} {limit : Option Limit}
    {earlier : List Nat} {visit : Visit}
    (finds : (schema.walk document limit).Finds earlier visit)
    (resolves : schema.Resolves visit.slot.candidates) :
    visit.slot.Reported schema document limit earlier visit.finding.counted?
      (visit.entries true) := by
  cases finds with
  | @empty slot nowhere =>
    rw [counted?_emptyFinding]
    by_cases allowed : .absent ∈ slot.candidates
    · rw [emptyFinding, if_pos allowed]
      exact .allowed nowhere allowed
    · rw [emptyFinding, if_neg allowed]
      exact .missing nowhere allowed
  | repeated found known => exact .repeated found known
  | overLimit found fresh exceeded =>
    obtain ⟨limited, beyond⟩ := Option.filter_eq_some_iff.mp exceeded
    exact .overLimit found fresh limited (of_decide_eq_true beyond)
  | @counted slot place node found fresh within =>
    have below (most : Limit) (limited : limit = some most) :
        (earlier.length : Int) + 1 ≤ most.bound := by
      have kept := Option.filter_eq_none_iff.mp within most limited
      exact Int.not_lt.mp (of_decide_eq_false (Bool.not_eq_true _ ▸ kept))
    have tries := Schema.tries_of_resolves resolves slot.path place node
    rw [counted?_nodeFinding]
    cases bound : (schema.walk document limit).boundRule slot node with
    | none =>
      have unbound : (Rule.bind node (Rule.tried schema.rules slot.candidates)).2 = none := bound
      rw [unbound] at tries
      rw [nodeFinding_of_none bound]
      exact .unidentified found fresh below tries
    | some rule =>
      have binds : (Rule.bind node (Rule.tried schema.rules slot.candidates)).2 = some rule := bound
      rw [binds] at tries
      rw [nodeFinding_of_some bound]
      exact .bound found fresh below tries

/-! ### The entries at one path -/

namespace Visit

theorem filter_path_entries (trace : Bool) (visit : Visit) :
    (visit.entries trace).filter (fun entry => entry.path == visit.slot.path) =
      visit.entries trace := by
  refine List.filter_eq_self.mpr fun entry member => ?_
  rw [beq_iff_eq]
  exact (pointing_of_mem_entries member).1

theorem filter_path_entries_of_ne {trace : Bool} {visit : Visit} {path : String}
    (elsewhere : visit.slot.path ≠ path) :
    (visit.entries trace).filter (fun entry => entry.path == path) = [] := by
  refine List.filter_eq_nil_iff.mpr fun entry member => ?_
  rw [beq_iff_eq, (pointing_of_mem_entries member).1]
  exact elsewhere

/-- Of visits at different paths, the entries at the path of one of them are those that it left. -/
theorem filter_path_allEntries {trace : Bool} {visits : List Visit} {visit : Visit}
    (apart : visits.Pairwise fun visit other => visit.slot.path ≠ other.slot.path)
    (member : visit ∈ visits) :
    (allEntries trace visits).filter (fun entry => entry.path == visit.slot.path) =
      visit.entries trace := by
  obtain ⟨before, after, rfl⟩ := List.append_of_mem member
  obtain ⟨_, apartAfter, apartBefore⟩ := List.pairwise_append.mp apart
  have nothing {others : List Visit}
      (elsewhere : ∀ other ∈ others, other.slot.path ≠ visit.slot.path) :
      (allEntries trace others).filter (fun entry => entry.path == visit.slot.path) = [] := by
    rw [allEntries, List.filter_flatMap, List.flatMap_eq_nil_iff]
    exact fun other among => filter_path_entries_of_ne (elsewhere other among)
  have earlier := nothing fun other among => apartBefore other among visit List.mem_cons_self
  have later := nothing fun other among => ((List.pairwise_cons.mp apartAfter).1 other among).symm
  rw [allEntries_append, allEntries, allEntries, List.flatMap_cons, List.filter_append,
    List.filter_append, ← allEntries, ← allEntries, earlier, later, filter_path_entries,
    List.nil_append, List.append_nil]

end Visit

/-- The path of a slot is not empty. -/
theorem Way.text_ne_empty (way : Way) : way.text ≠ "" := by
  simp [text]

namespace Verification

variable (options : Options) (catalog : Catalog) (schema : Schema) (document : Document)
  (root : Option Nat) (filePath : String)

/-- Around the entries that report visits stand those about the file and about the header. -/
theorem exists_diagnostics_eq : ∃ front back,
    (verify options catalog schema document root filePath).diagnostics =
      front ++ (Visit.allEntries options.trace (visits options schema document root) ++ back) ∧
    ∀ entry ∈ front ++ back, entry.path = "" ∨ entry.path = Header.path := by
  refine ⟨startEntry catalog schema filePath :: (extensionEntries schema filePath ++
      (Header.check options.trace catalog schema (document.follow root)).2),
    [verdictEntry catalog schema filePath
      (verify options catalog schema document root filePath).ok], ?_, ?_⟩
  · rw [diagnostics_verify_eq_trail, trail]
    simp only [List.append_assoc, List.cons_append, List.nil_append]
  · intro entry member
    simp only [List.cons_append, List.mem_cons, List.mem_append, List.not_mem_nil,
      or_false] at member
    rcases member with rfl | (extension | header) | closing
    · exact Or.inl rfl
    · unfold extensionEntries at extension
      split at extension
      · cases extension
      · cases List.mem_singleton.mp extension
        exact Or.inl rfl
    · exact Or.inr (Header.path_of_mem_check _ _ _ _ header)
    · rw [closing]
      generalize Report.ok _ = ok
      cases ok <;> exact Or.inl rfl

/-- The entries at the path of a visit are those that the visit left. -/
theorem filter_path_diagnostics {visit : Visit}
    (member : visit ∈ visits options schema document root) :
    (verify options catalog schema document root filePath).diagnostics.filter
        (fun entry => entry.path == visit.slot.path) =
      visit.entries options.trace := by
  obtain ⟨front, back, split, aside⟩ :=
    exists_diagnostics_eq options catalog schema document root filePath
  have nothing {entries : List Diagnostic} (among : entries ⊆ front ++ back) :
      entries.filter (fun entry => entry.path == visit.slot.path) = [] := by
    refine List.filter_eq_nil_iff.mpr fun entry inEntries same => ?_
    rw [beq_iff_eq] at same
    rcases aside entry (among inEntries) with file | header
    · exact visit.slot.way.text_ne_empty (same.symm.trans file)
    · exact visit.slot.way.text_ne_headerPath (same.symm.trans header)
  rw [split, List.filter_append, List.filter_append, nothing (List.subset_append_left _ _),
    nothing (List.subset_append_right _ _), List.nil_append, List.append_nil]
  exact Visit.filter_path_allEntries
    ((pairwise_visits options schema document root).imp And.right) member

/-! ### The trail of a traced verification -/

/-- A report of a traced verification explains what its visits came to: the nodes that are counted
are told apart by their places, every visit is made in a position of its own path, and the entries
at this path are the report of the slot, given the nodes that the visits before it counted. The
other entries are about the file or about the header. -/
structure Explained (limit : Option Limit) (visits : List Visit) (report : Report) : Prop where
  counted : report.counted = (Visit.countedPlaces visits).length
  nodup : (Visit.countedPlaces visits).Nodup
  positions : ∀ visit ∈ visits, schema.Position document
    (firstSlot schema (document.afterHeader root)) visit.slot
  apart : visits.Pairwise fun visit other => visit.slot.path ≠ other.slot.path
  reported : ∀ before visit after, visits = before ++ visit :: after →
    visit.slot.Reported schema document limit (Visit.countedPlaces before)
      visit.finding.counted?
      (report.diagnostics.filter fun entry => entry.path == visit.slot.path)
  others : ∀ entry ∈ report.diagnostics, entry.path = "" ∨ entry.path = Header.path ∨
    ∃ visit ∈ visits, entry.path = visit.slot.path

end Verification

/-- The trace explains what becomes of every node, for every schema, every document, whatever its
links, and every limit. At the path of a node that is counted it holds one entry about each
candidate before the first that accepts, with a reason that names the title, the data or both as
they do not match, and then the entry about the one that accepts; or, where no candidate accepts,
the entries about all of them, and then the one that says so. At the path of a node that was counted
before there is only the entry that says this, and likewise at that of a node beyond the limit. -/
theorem verify_explained (limit : Option Limit) (catalog : Catalog) (schema : Schema)
    (document : Document) (root : Option Nat) (filePath : String) :
    Verification.Explained schema document root limit
      (Verification.visits ⟨true, limit⟩ schema document root)
      (verify ⟨true, limit⟩ catalog schema document root filePath) where
  counted := (Visit.length_countedPlaces _).symm
  nodup := (Walk.nodup_countedPlaces [] _).1
  positions := fun _ member => Verification.position_of_mem_visits member
  apart := (Verification.pairwise_visits ⟨true, limit⟩ schema document root).imp And.right
  reported := by
    intro before visit after split
    have member : visit ∈ Verification.visits ⟨true, limit⟩ schema document root :=
      split ▸ List.mem_append_right _ List.mem_cons_self
    have finds : (schema.walk document limit).Finds ([] ++ Visit.countedPlaces before) visit :=
      Walk.finds_of_split split
    rw [Verification.filter_path_diagnostics _ _ _ _ _ _ member]
    exact finds.reported (Verification.position_of_mem_visits member).resolves
  others := by
    obtain ⟨front, back, split, aside⟩ :=
      Verification.exists_diagnostics_eq ⟨true, limit⟩ catalog schema document root filePath
    intro entry member
    rw [split, List.mem_append, List.mem_append] at member
    rcases member with inFront | walked | inBack
    · exact (aside entry (List.mem_append_left _ inFront)).imp_right Or.inl
    · obtain ⟨visit, among, inVisit⟩ := List.mem_flatMap.mp walked
      exact Or.inr (Or.inr ⟨visit, among, (Visit.pointing_of_mem_entries inVisit).1⟩)
    · exact (aside entry (List.mem_append_right _ inBack)).imp_right Or.inl

end TreeSchema
