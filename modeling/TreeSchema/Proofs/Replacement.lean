/-
This file compares a file that conforms with the same file after the texts of one node were
replaced by texts that no candidate for the node accepts. Up to this node the two walks make
the same visits. There the second one finds a node that it cannot identify, opens nothing,
and goes on with the slots that waited behind, where it again does what the first one does.
So the tree is taken apart at the node: the visits to a tree are those before the node, those
to the node with what is below and after it, and those behind, and of these only the visits
in the middle are different. One failure is reported, where the node stands, and what hangs
off the node is not counted any more.
-/
import Mathlib.Data.Set.Card
import TreeSchema.Proofs.BuiltIn
import TreeSchema.Proofs.Dependence
import TreeSchema.Proofs.Positions

namespace TreeSchema

/-! ### A tree with one node changed -/

namespace NodeTree

/-- The tree with the node at a place changed. -/
def change (place : Nat) (edit : Node → Node) : NodeTree → NodeTree
  | absent => absent
  | node here content below after =>
    node here (if here = place then edit content else content) (below.change place edit)
      (after.change place edit)

variable {place : Nat} {edit : Node → Node}

theorem places_change (tree : NodeTree) : (tree.change place edit).places = tree.places := by
  induction tree with
  | absent => rfl
  | node here content below after belowHypothesis afterHypothesis =>
    rw [change, places, places, belowHypothesis, afterHypothesis]

theorem change_of_not_mem {tree : NodeTree} (outside : place ∉ tree.places) :
    tree.change place edit = tree := by
  induction tree with
  | absent => rfl
  | node here content below after belowHypothesis afterHypothesis =>
    rw [places, List.mem_cons, List.mem_append, not_or, not_or] at outside
    rw [change, if_neg (Ne.symm outside.1), belowHypothesis outside.2.1,
      afterHypothesis outside.2.2]

/-- Where no place is repeated, a change of the first node changes nothing else. -/
theorem change_self {content : Node} {below after : NodeTree}
    (nodup : (node place content below after).places.Nodup) :
    (node place content below after).change place edit =
      node place (edit content) below after := by
  rw [places, List.nodup_cons, List.mem_append, not_or] at nodup
  rw [change, if_pos rfl, change_of_not_mem nodup.1.1, change_of_not_mem nodup.1.2]

end NodeTree

namespace Document

variable {document : Document} {place : Nat} {edit : Node → Node}

theorem follow_modify (document : Document) (place : Nat) (edit : Node → Node)
    (link : Option Nat) :
    (document.modify place edit).follow link = (document.follow link).map fun found =>
      (found.1, if found.1 = place then edit found.2 else found.2) := by
  cases link with
  | none => rfl
  | some other =>
    simp only [follow, Option.bind_some, Option.map_map]
    by_cases same : other = place
    · subst same
      rw [node?_modify_self, Option.map_map]
      refine congrArg (fun into => Option.map into _) (funext fun node => ?_)
      simp
    · rw [node?_modify_other edit (Ne.symm same)]
      refine congrArg (fun into => Option.map into _) (funext fun node => ?_)
      simp [same]

theorem follow_modify_of_ne {link : Option Nat} (elsewhere : link ≠ some place)
    (edit : Node → Node) : (document.modify place edit).follow link = document.follow link := by
  cases link with
  | none => rfl
  | some other =>
    have different : place ≠ other := fun same => elsewhere (congrArg some same.symm)
    rw [follow, follow, Option.bind_some, Option.bind_some, node?_modify_other edit different]

/-- A change that keeps the links changes one node of the tree that a link unfolds to. -/
theorem Unfolds.modify {start : Option Nat} {tree : NodeTree}
    (unfolds : document.Unfolds start tree)
    (links : ∀ node link, (edit node).link link = node.link link) :
    (document.modify place edit).Unfolds start (tree.change place edit) := by
  induction unfolds with
  | absent nowhere =>
    refine .absent ?_
    rw [follow_modify, nowhere]
    rfl
  | @node start here content below after found _ _ child next =>
    have kept (link : Link) :
        (if here = place then edit content else content).link link = content.link link := by
      split
      · exact links content link
      · rfl
    have childLink : (if here = place then edit content else content).child = content.child :=
      kept .child
    have nextLink : (if here = place then edit content else content).next = content.next :=
      kept .next
    rw [NodeTree.change]
    refine .node ?_ ?_ ?_
    · rw [follow_modify, found]
      rfl
    · rw [childLink]
      exact child
    · rw [nextLink]
      exact next

theorem afterHeader_modify (links : ∀ node link, (edit node).link link = node.link link)
    (root : Option Nat) :
    (document.modify place edit).afterHeader root = document.afterHeader root := by
  rw [afterHeader, afterHeader, follow_modify]
  cases document.follow root with
  | none => rfl
  | some found =>
    show (if found.1 = place then edit found.2 else found.2).link .next = found.2.link .next
    split
    · exact links found.2 .next
    · rfl

end Document

/-! ### The part of a tree that a node holds -/

namespace Walk

/-- Walks with the same rules visit a tree alike, whatever documents they are about. -/
theorem visitTree_congr {walk other : Walk} (rules : other.rules = walk.rules) (slot : Slot)
    (tree : NodeTree) : other.visitTree slot tree = walk.visitTree slot tree := by
  have finding (slot : Slot) (place : Nat) (node : Node) :
      other.nodeFinding slot place node = walk.nodeFinding slot place node := by
    rw [nodeFinding, nodeFinding, rules]
  have bound (slot : Slot) (node : Node) :
      other.boundRule slot node = walk.boundRule slot node := by
    rw [boundRule, boundRule, rules]
  induction tree generalizing slot with
  | absent => rfl
  | node place content below after belowHypothesis afterHypothesis =>
    rw [visitTree, visitTree, finding, bound]
    cases walk.boundRule slot content with
    | none => rfl
    | some rule => exact congrArg _ (congrArg₂ _ (belowHypothesis _) (afterHypothesis _))

/-- The visits to a tree are those before a node, those to the node and to what is below and after
it, and those behind. The node stands in the slot `here`. Only the visits in the middle see what it
is. -/
structure Parts (walk : Walk) (slot : Slot) (tree : NodeTree) (place : Nat) (here : Slot)
    (content : Node) (below after : NodeTree) (before behind : List Visit) : Prop where
  unfolds : walk.document.Unfolds here.link (.node place content below after)
  nodup : (NodeTree.node place content below after).places.Nodup
  visits : walk.visitTree slot tree =
    before ++ (walk.visitTree here (.node place content below after) ++ behind)
  changed : ∀ edit, walk.visitTree slot (tree.change place edit) =
    before ++ (walk.visitTree here (.node place (edit content) below after) ++ behind)

variable {walk : Walk} {place : Nat}

/-- Visits that are parted at a node stay so among more visits that do not see this node. -/
theorem Parts.extend {slot outer here : Slot} {tree whole below after : NodeTree} {content : Node}
    {before behind front rear : List Visit}
    (parts : walk.Parts slot tree place here content below after before behind)
    (visits : walk.visitTree outer whole = front ++ (walk.visitTree slot tree ++ rear))
    (changed : ∀ edit, walk.visitTree outer (whole.change place edit) =
      front ++ (walk.visitTree slot (tree.change place edit) ++ rear)) :
    walk.Parts outer whole place here content below after (front ++ before) (behind ++ rear) := by
  refine ⟨parts.unfolds, parts.nodup, ?_, fun edit => ?_⟩
  · rw [visits, parts.visits]
    simp only [List.append_assoc]
  · rw [changed, parts.changed]
    simp only [List.append_assoc]

/-- Where the visits to a tree conform, they can be parted at each of its nodes. -/
theorem exists_parts {tree : NodeTree} (slot : Slot)
    (unfolds : walk.document.Unfolds slot.link tree) (nodup : tree.places.Nodup)
    (conform : Visit.allConform (walk.visitTree slot tree) = true) (member : place ∈ tree.places) :
    ∃ here content below after before behind,
      walk.Parts slot tree place here content below after before behind := by
  induction tree generalizing slot with
  | absent => cases member
  | node other node below after belowHypothesis afterHypothesis =>
    by_cases same : other = place
    · subst same
      refine ⟨slot, node, below, after, [], [], unfolds, nodup, ?_, fun edit => ?_⟩
      · rw [List.append_nil, List.nil_append]
      · rw [NodeTree.change_self nodup, List.append_nil, List.nil_append]
    · rw [visitTree, Visit.allConform, List.all_cons, Bool.and_eq_true] at conform
      obtain ⟨conformsHere, conformRest⟩ := conform
      cases bound : walk.boundRule slot node with
      | none =>
        rw [nodeFinding_of_none bound] at conformsHere
        cases conformsHere
      | some rule =>
        rw [bound, List.all_append, Bool.and_eq_true] at conformRest
        let first : Visit := ⟨slot, walk.nodeFinding slot other node⟩
        have visits (below after : NodeTree) :
            walk.visitTree slot (.node other node below after) =
              [first] ++ (walk.visitTree (slot.childSlot rule.definition node) below ++
                walk.visitTree (slot.nextSlot rule.definition node) after) := by
          rw [visitTree, bound]
          rfl
        have change (edit : Node → Node) :
            (NodeTree.node other node below after).change place edit =
              .node other node (below.change place edit) (after.change place edit) := by
          rw [NodeTree.change, if_neg same]
        cases unfolds with
        | node _ child next =>
        -- the node is below or after the first one, and the visits to the other part stay
        have apart := (List.nodup_append.mp (List.nodup_cons.mp nodup).2).2.2
        rcases List.mem_append.mp (List.mem_of_ne_of_mem (Ne.symm same) member) with
          inBelow | inAfter
        · have outside : place ∉ after.places := fun inAfter => apart _ inBelow _ inAfter rfl
          obtain ⟨here, content, inner, later, _, _, parts⟩ :=
            belowHypothesis _ child (NodeTree.nodup_below nodup) conformRest.1 inBelow
          refine ⟨here, content, inner, later, _, _,
            parts.extend (visits below after) fun edit => ?_⟩
          rw [change, visits, NodeTree.change_of_not_mem outside]
        · have outside : place ∉ below.places := fun inBelow => apart _ inBelow _ inAfter rfl
          obtain ⟨here, content, inner, later, _, _, parts⟩ :=
            afterHypothesis _ next (NodeTree.nodup_after nodup) conformRest.2 inAfter
          let front := [first] ++ walk.visitTree (slot.childSlot rule.definition node) below
          refine ⟨here, content, inner, later, front ++ _, _ ++ [], parts.extend ?_ fun edit => ?_⟩
          · rw [visits, List.append_nil, List.append_assoc]
          · rw [change, visits, NodeTree.change_of_not_mem outside, List.append_nil,
              List.append_assoc]

end Walk

/-! ### The failures of a report -/

/-- Among the entries that report visits, those that mean a failure have the code of one that a walk
may meet. -/
theorem mem_walkFailures_of_isProblem {entry : Diagnostic} (listed : entry.code ∈ Code.walkCodes)
    (problem : entry.isProblem = true) : entry.code ∈ Code.walkFailures := by
  rcases isFailure_iff.mp problem with extension | header | failure
  · exact absurd (extension ▸ listed) (by decide)
  · exact absurd (header ▸ listed) (by decide)
  · exact failure

theorem filter_isProblem_of_allConform {trace : Bool} {visits : List Visit}
    (conform : Visit.allConform visits = true) :
    (Visit.allEntries trace visits).filter Diagnostic.isProblem = [] := by
  refine List.filter_eq_nil_iff.mpr fun entry member problem => ?_
  have listed := (concern_allEntries trace visits entry member).1
  have wrong := (allConform_eq_false_iff trace visits).mpr
    ⟨entry, member, mem_walkFailures_of_isProblem listed problem⟩
  exact Bool.false_ne_true (wrong.symm.trans conform)

/-- A node that is not identified leaves one entry that means a failure, whatever is traced. -/
theorem filter_isProblem_unidentified (trace : Bool) (slot : Slot) (place : Nat) (node : Node)
    (rejected : List Rule) :
    (Visit.entries trace ⟨slot, .unidentified place node rejected⟩).filter Diagnostic.isProblem =
      [Visit.unidentifiedEntry slot.path place node slot.candidates] := by
  have trials : (Visit.rejectedEntries trace slot.path place node rejected).filter
      Diagnostic.isProblem = [] := by
    refine List.filter_eq_nil_iff.mpr fun entry member problem => ?_
    have code := List.mem_singleton.mp (concern_rejectedEntries trace _ _ _ _ entry member).1
    rw [Diagnostic.isProblem, code] at problem
    cases problem
  rw [Visit.entries, List.filter_append, trials, List.nil_append]
  rfl

/-- Where the extension and the header are right, the failures of a report are those that the visits
report. -/
theorem problems_verify {trace : Bool} {catalog : Catalog} {schema : Schema} {document : Document}
    {root : Option Nat} {filePath : String}
    (extensionOk : (verify ⟨trace, none⟩ catalog schema document root filePath).extensionOk = true)
    (headerOk : (verify ⟨trace, none⟩ catalog schema document root filePath).headerOk = true) :
    (verify ⟨trace, none⟩ catalog schema document root filePath).problems =
      (Visit.allEntries trace (Verification.visits ⟨trace, none⟩ schema document root)).filter
        Diagnostic.isProblem := by
  have extension : (Verification.extensionEntries schema filePath).filter
      Diagnostic.isProblem = [] := by
    have matched : schema.matchesExtension (extensionOf filePath) = true := extensionOk
    rw [Verification.extensionEntries, if_pos matched]
    rfl
  have header : (Header.check trace catalog schema (document.follow root)).2.filter
      Diagnostic.isProblem = [] := by
    refine List.filter_eq_nil_iff.mpr fun entry member problem => ?_
    have listed := (concern_check trace catalog schema (document.follow root) entry member).1
    rw [List.mem_cons, List.mem_singleton] at listed
    rcases listed with mismatch | matched
    · have wrong := (check_eq_false_iff trace catalog schema (document.follow root)).mpr
        ⟨entry, member, mismatch⟩
      exact Bool.false_ne_true (wrong.symm.trans headerOk)
    · rw [Diagnostic.isProblem, matched] at problem
      cases problem
  have opening : [Verification.startEntry catalog schema filePath].filter
      Diagnostic.isProblem = [] := rfl
  have closing (ok : Bool) : [Verification.verdictEntry catalog schema filePath ok].filter
      Diagnostic.isProblem = [] := by
    cases ok <;> rfl
  rw [Report.problems, diagnostics_verify_eq_trail, Verification.trail]
  simp only [List.filter_append, opening, extension, header, closing, List.nil_append,
    List.append_nil]

/-! ### One node replaced -/

/-- The node with other texts. -/
def Node.withTexts (title data : String) (node : Node) : Node :=
  { node with title, data }

theorem Node.link_withTexts (title data : String) (node : Node) (link : Link) :
    (node.withTexts title data).link link = node.link link := by
  cases link <;> rfl

namespace Schema

/-- No definition that is named among the candidates accepts the node. -/
def Refuses (schema : Schema) (candidates : List Reference) (node : Node) : Prop :=
  ∀ name definition, .named name ∈ candidates → schema.find? name = some definition →
    ¬ definition.Accepts node

theorem boundRule_eq_none {schema : Schema} {document : Document} {slot : Slot} {node : Node}
    (refuses : schema.Refuses slot.candidates node) (limit : Option Limit) :
    (schema.walk document limit).boundRule slot node = none := by
  cases bound : (schema.walk document limit).boundRule slot node with
  | none => rfl
  | some rule =>
    obtain ⟨before, name, after, split, found, accepts, _⟩ := boundRule_iff.mp ⟨rule, bound, rfl⟩
    have listed : .named name ∈ slot.candidates :=
      split ▸ List.mem_append_right _ List.mem_cons_self
    exact absurd accepts (refuses name _ listed found)

end Schema

namespace Walk.Parts

variable {walk : Walk} {slot here : Slot} {tree below after : NodeTree} {place : Nat}
  {content : Node} {before behind : List Visit} {edit : Node → Node}

theorem allConform (parts : walk.Parts slot tree place here content below after before behind)
    (conform : Visit.allConform (walk.visitTree slot tree) = true) :
    Visit.allConform before = true ∧
      Visit.allConform (walk.visitTree here (.node place content below after)) = true ∧
      Visit.allConform behind = true := by
  rw [parts.visits, Visit.allConform_append, Visit.allConform_append, Bool.and_eq_true,
    Bool.and_eq_true] at conform
  exact conform

theorem found (parts : walk.Parts slot tree place here content below after before behind) :
    walk.document.follow here.link = some (place, content) := by
  cases parts.unfolds with
  | node found _ _ => exact found

theorem mem_visitTree (parts : walk.Parts slot tree place here content below after before behind) :
    ⟨here, walk.nodeFinding here place content⟩ ∈ walk.visitTree slot tree := by
  rw [parts.visits, visitTree]
  exact List.mem_append_right _ List.mem_cons_self

theorem exists_rule (parts : walk.Parts slot tree place here content below after before behind)
    (conform : Visit.allConform (walk.visitTree slot tree) = true) :
    ∃ rule, walk.boundRule here content = some rule := by
  have conforms := List.all_eq_true.mp conform _ parts.mem_visitTree
  cases bound : walk.boundRule here content with
  | none =>
    rw [nodeFinding_of_none bound] at conforms
    cases conforms
  | some rule => exact ⟨rule, rfl⟩

/-- The visits if the node is changed so that no rule accepts it: nothing below or after it is
visited. -/
theorem visitTree_change (parts : walk.Parts slot tree place here content below after before behind)
    (unbound : walk.boundRule here (edit content) = none) :
    walk.visitTree slot (tree.change place edit) = before ++
      (⟨here, .unidentified place (edit content) (walk.rejectedRules here (edit content))⟩ ::
        behind) := by
  rw [parts.changed, visitTree, unbound, nodeFinding_of_none unbound]
  rfl

/-- The nodes below and after the one that is changed are lost from the count. -/
theorem countNodes_change
    (parts : walk.Parts slot tree place here content below after before behind)
    (conform : Visit.allConform (walk.visitTree slot tree) = true)
    (unbound : walk.boundRule here (edit content) = none) :
    Visit.countNodes (walk.visitTree slot (tree.change place edit)) +
        (below.places.length + after.places.length) =
      Visit.countNodes (walk.visitTree slot tree) := by
  have middle := countNodes_visitTree here (parts.allConform conform).2.1
  rw [NodeTree.places, List.length_cons, List.length_append] at middle
  rw [parts.visitTree_change unbound, parts.visits, Visit.countNodes_append,
    Visit.countNodes_append, Visit.countNodes_append, middle,
    Visit.countNodes_cons_of_counts rfl]
  omega

/-- The node that is changed is the only one about which a failure is reported. -/
theorem problems_change (parts : walk.Parts slot tree place here content below after before behind)
    (conform : Visit.allConform (walk.visitTree slot tree) = true)
    (unbound : walk.boundRule here (edit content) = none) (trace : Bool) :
    (Visit.allEntries trace (walk.visitTree slot (tree.change place edit))).filter
        Diagnostic.isProblem =
      [Visit.unidentifiedEntry here.path place (edit content) here.candidates] := by
  obtain ⟨conformBefore, _, conformBehind⟩ := parts.allConform conform
  rw [parts.visitTree_change unbound, Visit.allEntries_append, List.filter_append,
    filter_isProblem_of_allConform conformBefore, List.nil_append, Visit.allEntries,
    List.flatMap_cons, List.filter_append, filter_isProblem_unidentified, ← Visit.allEntries,
    filter_isProblem_of_allConform conformBehind]
  rfl

end Walk.Parts

/-- The second report has one failure, and its extension and its header are judged as in the first
report. A number of nodes is lost from the count. -/
structure Report.Pinpoints (report changed : Report) (entry : Diagnostic) (lost : Nat) :
    Prop where
  ok : changed.ok = false
  extensionOk : changed.extensionOk = report.extensionOk
  headerOk : changed.headerOk = report.headerOk
  problems : changed.problems = [entry]
  counted : changed.counted + lost = report.counted

/-- The nodes that a node leads to are those below and after it in the tree. -/
theorem Document.ncard_reachable {document : Document} {link : Option Nat} {place : Nat}
    {content : Node} {below after : NodeTree}
    (unfolds : document.Unfolds link (.node place content below after))
    (nodup : (NodeTree.node place content below after).places.Nodup) :
    {other | other ≠ place ∧ document.Reachable link other}.ncard =
      below.places.length + after.places.length := by
  have same : {other | other ≠ place ∧ document.Reachable link other} =
      ((below.places ++ after.places).toFinset : Set Nat) := by
    ext other
    have reached : document.Reachable link other ↔
        other ∈ (NodeTree.node place content below after).places := by
      rw [NodeTree.mem_places_iff]
      exact exists_congr fun chain => by rw [reach_eq_placeAt unfolds]
    rw [NodeTree.places, List.nodup_cons] at nodup
    rw [Set.mem_ofPred_eq, reached, NodeTree.places, List.mem_cons, Finset.mem_coe,
      List.mem_toFinset]
    constructor
    · intro elsewhere
      exact elsewhere.2.resolve_left elsewhere.1
    · intro member
      exact ⟨fun here => nodup.1 (here ▸ member), Or.inr member⟩
  rw [same, Set.ncard_coe_finset, List.toFinset_card_of_nodup (List.nodup_cons.mp nodup).2,
    List.length_append]

namespace Verification

variable {trace : Bool} {catalog : Catalog} {schema : Schema} {document : Document}
  {root : Option Nat} {filePath : String}

/-- The visits to a document of which one node was changed. -/
theorem visits_modify {edit : Node → Node}
    (links : ∀ node link, (edit node).link link = node.link link) {tree : NodeTree}
    (unfolds : document.Unfolds (document.afterHeader root) tree) (nodup : tree.places.Nodup)
    (place : Nat) :
    visits ⟨trace, none⟩ schema (document.modify place edit) root =
      (schema.walk document none).visitTree (firstSlot schema (document.afterHeader root))
        (tree.change place edit) := by
  have unfoldsChanged : (document.modify place edit).Unfolds (document.afterHeader root)
      (tree.change place edit) := unfolds.modify links
  have nodupChanged : (tree.change place edit).places.Nodup := by
    rw [NodeTree.places_change]
    exact nodup
  let changed := schema.walk (document.modify place edit) none
  have rules : changed.rules = (schema.walk document none).rules := rfl
  rw [visits, Document.afterHeader_modify links, ← Walk.visitTree_congr rules]
  exact Walk.visits_eq_visitTree rfl unfoldsChanged nodupChanged

/-- A node of a file that conforms is changed so that no rule accepts it. -/
theorem pinpoints_of_unbound {edit : Node → Node}
    (ok : (verify ⟨trace, none⟩ catalog schema document root filePath).ok = true)
    (links : ∀ node link, (edit node).link link = node.link link) {tree below after : NodeTree}
    (unfolds : document.Unfolds (document.afterHeader root) tree) (nodup : tree.places.Nodup)
    {place : Nat} (inTree : place ∈ tree.places) {slot : Slot} {node : Node}
    {before behind : List Visit}
    (parts : (schema.walk document none).Parts (firstSlot schema (document.afterHeader root)) tree
      place slot node below after before behind)
    (unbound : (schema.walk document none).boundRule slot (edit node) = none) :
    Report.Pinpoints (verify ⟨trace, none⟩ catalog schema document root filePath)
      (verify ⟨trace, none⟩ catalog schema (document.modify place edit) root filePath)
      (Visit.unidentifiedEntry slot.path place (edit node) slot.candidates)
      (below.places.length + after.places.length) := by
  rw [ok_verify, Bool.and_eq_true, Bool.and_eq_true] at ok
  obtain ⟨⟨extensionOk, headerOk⟩, conform⟩ := ok
  have visited : visits ⟨trace, none⟩ schema document root =
      (schema.walk document none).visitTree (firstSlot schema (document.afterHeader root)) tree :=
    Walk.visits_eq_visitTree rfl unfolds nodup
  have visitedChanged : visits ⟨trace, none⟩ schema (document.modify place edit) root = _ :=
    visits_modify links unfolds nodup place
  rw [nodesOk_verify, visited] at conform
  -- the header is not the node that is changed, as no link leads back to it
  have header : (document.modify place edit).follow root = document.follow root := by
    refine Document.follow_modify_of_ne (fun same => ?_) edit
    obtain ⟨chain, reached⟩ := NodeTree.mem_places_iff.mp inTree
    rw [← Document.reach_eq_placeAt unfolds] at reached
    exact Document.not_reach_header ((Document.reachedOnce_iff_nodup unfolds).mpr nodup) chain same
      reached
  have headerOk_eq : (verify ⟨trace, none⟩ catalog schema (document.modify place edit) root
      filePath).headerOk = (verify ⟨trace, none⟩ catalog schema document root filePath).headerOk :=
    congrArg (fun found => (Header.check trace catalog schema found).1) header
  have extensionOkChanged : (verify ⟨trace, none⟩ catalog schema (document.modify place edit) root
      filePath).extensionOk = true := extensionOk
  have problems : (verify ⟨trace, none⟩ catalog schema (document.modify place edit) root
      filePath).problems =
      [Visit.unidentifiedEntry slot.path place (edit node) slot.candidates] := by
    rw [problems_verify extensionOkChanged (headerOk_eq.trans headerOk), visitedChanged,
      parts.problems_change conform unbound]
  refine ⟨?failed, rfl, headerOk_eq, problems, ?counted⟩
  case failed =>
    rw [← Bool.not_eq_true, ok_iff_problems_eq_nil, problems]
    exact List.cons_ne_nil _ _
  case counted =>
    rw [counted_verify, counted_verify, visited, visitedChanged]
    exact parts.countNodes_change conform unbound

end Verification

/-- A single wrong node is pinpointed. In a file that conforms, each node after the header stands in
one slot, and the trail names the definition that is bound to it there. If the texts of the node
are replaced by texts that no candidate of this slot accepts, the report has one failure, that this
node, on the path that it had, is not identified. The extension and the header are judged as they
were, and the nodes that this node leads to are not counted any more. -/
theorem pinpoints_replacement (trace : Bool) (catalog : Catalog) (schema : Schema)
    (document : Document) (root : Option Nat) (filePath : String)
    (ok : (verify ⟨trace, none⟩ catalog schema document root filePath).ok = true) {place : Nat}
    (body : document.Reachable (document.afterHeader root) place) :
    ∃ slot node definition, schema.Stands document root place node slot definition ∧
      (∀ other otherNode otherDefinition,
        schema.Stands document root place otherNode other otherDefinition → other = slot) ∧
      Visit.matchedEntry slot.path place node definition ∈
        (verify ⟨true, none⟩ catalog schema document root filePath).diagnostics ∧
      ∀ title data, schema.Refuses slot.candidates (node.withTexts title data) →
        Report.Pinpoints (verify ⟨trace, none⟩ catalog schema document root filePath)
          (verify ⟨trace, none⟩ catalog schema (document.modify place (Node.withTexts title data))
            root filePath)
          (Visit.unidentifiedEntry slot.path place (node.withTexts title data) slot.candidates)
          {other | other ≠ place ∧ document.Reachable (some place) other}.ncard := by
  have conform : Visit.allConform (Verification.visits ⟨trace, none⟩ schema document root) =
      true := by
    have parts := ok
    rw [ok_verify, Bool.and_eq_true] at parts
    exact parts.2
  obtain ⟨tree, unfolds, nodup⟩ := Walk.exists_tree_of_allConform conform
  have visited : Verification.visits ⟨trace, none⟩ schema document root =
      (schema.walk document none).visitTree
        (Verification.firstSlot schema (document.afterHeader root)) tree :=
    Walk.visits_eq_visitTree rfl unfolds nodup
  have inTree : place ∈ tree.places := by
    obtain ⟨chain, reached⟩ := body
    exact NodeTree.mem_places_iff.mpr
      ⟨chain, (Document.reach_eq_placeAt unfolds chain).symm.trans reached⟩
  obtain ⟨slot, node, below, after, before, behind, parts⟩ :=
    Walk.exists_parts _ unfolds nodup (visited ▸ conform) inTree
  obtain ⟨rule, bound⟩ := parts.exists_rule (visited ▸ conform)
  have member : ⟨slot, (schema.walk document none).nodeFinding slot place node⟩ ∈
      Verification.visits ⟨trace, none⟩ schema document root := visited ▸ parts.mem_visitTree
  have stands : schema.Stands document root place node slot rule.definition :=
    ⟨Verification.position_of_mem_visits member, parts.found,
      Schema.boundRule_iff.mp ⟨rule, bound, rfl⟩⟩
  refine ⟨slot, node, rule.definition, stands, fun _ _ _ otherStands =>
    Verification.slot_eq_of_stands conform stands otherStands, ?matched, ?replaced⟩
  case matched =>
    refine List.mem_cons_of_mem _ (List.mem_append_left _ (List.mem_append_right _ ?_))
    refine List.mem_flatMap.mpr ⟨_, member, ?_⟩
    rw [Walk.nodeFinding_of_some bound]
    exact List.mem_append_right _ List.mem_cons_self
  case replaced =>
    intro title data refuses
    have link : slot.link = some place := (Document.follow_eq_some_iff.mp stands.found).1
    have lost : {other | other ≠ place ∧ document.Reachable slot.link other}.ncard = _ :=
      Document.ncard_reachable parts.unfolds parts.nodup
    rw [← link, lost]
    exact Verification.pinpoints_of_unbound ok (Node.link_withTexts title data) unfolds nodup
      inTree parts (Schema.boundRule_eq_none refuses none)

/-- The first of two images loses one of its integers; the image after it is lost from the count. -/
theorem pinpoints_replacement_sky :
    let header : Node := { Node.alone "GHDR" "Version 1.0" 0 with next := some 1 }
    let head : Node := { Node.alone "banner" "" 0 with child := some 2 }
    let sky : Node := { Node.alone "sky" "sky.png[0,0,640,480]" 1 with next := some 3 }
    let sun : Node := Node.alone "sun" "sun.png[-5,0,20,20]" 1
    let document : Document := ⟨#[header, head, sky, sun]⟩
    let broken := sky.withTexts "sky" "sky.png[0,0,640]"
    let report :=
      verify ⟨false, none⟩ Catalog.ghdr Catalog.ghdrVersion1 document (some 0) "sky.ghdr"
    let changed := verify ⟨false, none⟩ Catalog.ghdr Catalog.ghdrVersion1
      (document.modify 2 (Node.withTexts "sky" "sky.png[0,0,640]")) (some 0) "sky.ghdr"
    (report.ok = true ∧ document.Reachable (document.afterHeader (some 0)) 2 ∧
      Catalog.ghdrVersion1.Refuses [.named "title"] broken) ∧
      changed.ok = false ∧
      changed.problems = [Visit.unidentifiedEntry "/head[1]/#0" 2 broken [.named "title"]] ∧
      changed.counted + 1 = report.counted := by
  intro header head sky sun document broken report changed
  have skyData : Catalog.IsImageData sky.data :=
    Catalog.matches_imageTemplate_iff.mp (Template.matchesList_iff.mp (by decide +kernel))
  have sunData : Catalog.IsImageData sun.data :=
    Catalog.matches_imageTemplate_iff.mp (Template.matchesList_iff.mp (by decide +kernel))
  have brokenData : ¬ Catalog.IsImageData broken.data := fun isData =>
    absurd (Template.matchesList_iff.mpr (Catalog.matches_imageTemplate_iff.mpr isData))
      (by decide +kernel)
  have body : Catalog.GhdrBody document (some 1) (1, head) [(2, sky), (3, sun)] := {
    found := rfl
    title := by decide
    data := rfl
    last := rfl
    siblings := .cons rfl (.cons rfl (.nil rfl))
    nonempty := List.cons_ne_nil _ _
    image := by
      simp only [List.forall_mem_cons]
      exact ⟨⟨by decide, rfl, skyData⟩, ⟨by decide, rfl, sunData⟩,
        fun _ member => absurd member List.not_mem_nil⟩ }
  have layout : Catalog.GhdrLayout document (some 0) (0, header) (1, head) [(2, sky), (3, sun)] :=
    ⟨rfl, rfl, Or.inl rfl, body⟩
  have ok : report.ok = true := by
    have extensionOk : report.extensionOk = true := by decide +kernel
    have headerOk : report.headerOk = true := by decide +kernel
    have nodesOk : report.nodesOk = true := layout.nodesOk false "sky.ghdr"
    have verdict : report.ok = (report.extensionOk && report.headerOk && report.nodesOk) :=
      ok_verify ..
    rw [verdict, extensionOk, headerOk, nodesOk]
    rfl
  have reachable : document.Reachable (document.afterHeader (some 0)) 2 := ⟨[.child], rfl⟩
  have refuses : Catalog.ghdrVersion1.Refuses [.named "title"] broken := by
    intro name definition listed found accepts
    cases List.mem_singleton.mp listed
    cases found
    exact brokenData (Catalog.ghdrTitle_accepts_iff.mp accepts).2
  let first := Verification.firstSlot Catalog.ghdrVersion1 (some 1)
  have stands : Catalog.ghdrVersion1.Stands document (some 0) 2 sky
      (first.childSlot Catalog.ghdrHead head) Catalog.ghdrTitle :=
    { position := .child .first rfl ((Schema.binds_cons_of_accepts rfl
        (Catalog.ghdrHead_accepts_iff.mpr ⟨by decide, rfl⟩)).mpr rfl)
      found := rfl
      binds := (Schema.binds_cons_of_accepts rfl
        (Catalog.ghdrTitle_accepts_iff.mpr ⟨by decide, skyData⟩)).mpr rfl }
  obtain ⟨slot, node, definition, there, only, _, replaced⟩ :=
    pinpoints_replacement false Catalog.ghdr Catalog.ghdrVersion1 document (some 0) "sky.ghdr" ok
      reachable
  cases only _ _ _ stands
  cases there.found.symm.trans stands.found
  have pinpoints := replaced "sky" "sky.png[0,0,640]" refuses
  have lost : {other | other ≠ 2 ∧ document.Reachable (some 2) other}.ncard = 1 := by
    have unfolds : document.Unfolds (some 2) (.node 2 sky .absent (.node 3 sun .absent .absent)) :=
      .node rfl (.absent rfl) (.node rfl (.absent rfl) (.absent rfl))
    exact Document.ncard_reachable unfolds (by decide)
  have path : (first.childSlot Catalog.ghdrHead head).path = "/head[1]/#0" := by decide +kernel
  have problems := pinpoints.problems
  rw [path] at problems
  exact ⟨⟨ok, reachable, refuses⟩, pinpoints.ok, problems, lost ▸ pinpoints.counted⟩

end TreeSchema
