/-
This file holds visits: a slot together with what was found there. A visit says by
itself whether it is a failure, whether a node is counted, and which entries report
it. Only the entries depend on whether the verification is traced.
-/
import TreeSchema.Diagnostic
import TreeSchema.Verification.Options
import TreeSchema.Verification.Rule
import TreeSchema.Verification.Slot

namespace TreeSchema

/-- What is found at a slot: no node, where that is allowed or not; a node that was found before;
a node too many; or a node that no candidate or one of them accepts, after the candidates that were
tried in vain. -/
inductive Finding where
  | absent
  | missing
  | repeated (place : Nat) (node : Node)
  | overLimit (place : Nat) (limit : Limit)
  | unidentified (place : Nat) (node : Node) (rejected : List Rule)
  | bound (place : Nat) (node : Node) (rejected : List Rule) (rule : Rule)
  deriving DecidableEq

/-- A slot and what is found there. -/
structure Visit where
  slot : Slot
  finding : Finding
  deriving DecidableEq

namespace Finding

/-- Whether nothing is wrong. -/
def conforms : Finding → Bool
  | absent => true
  | bound _ _ _ _ => true
  | _ => false

/-- Whether a node is counted. -/
def counts : Finding → Bool
  | unidentified _ _ _ => true
  | bound _ _ _ _ => true
  | _ => false

/-- The place of the node that is found. -/
def place? : Finding → Option Nat
  | absent => none
  | missing => none
  | repeated place _ => some place
  | overLimit place _ => some place
  | unidentified place _ _ => some place
  | bound place _ _ _ => some place

/-- What breaks the verification off at this point. -/
def obstacle? : Finding → Option Obstacle
  | overLimit _ limit => limit.obstacle?
  | _ => none

end Finding

namespace Visit

/-! ### Entries -/

/-- A required node is missing. -/
def missingEntry (path : String) (candidates : List Reference) : Diagnostic :=
  ⟨.error, .missingNode,
    "required node missing (expected one of: " ++ Reference.labels candidates ++ ")", path, none⟩

/-- The node was found before. -/
def cyclicEntry (path : String) (place : Nat) (node : Node) : Diagnostic :=
  ⟨.error, .cyclicLink, "node " ++ Text.quoted node.title ++ " reached twice; links form a cycle",
    path, some place⟩

/-- The node is one too many, under a limit that is shown by a text. -/
def stopEntry (path : String) (place : Nat) (shown : String) : Diagnostic :=
  ⟨.error, .nodeLimit, "stopped after " ++ shown ++ " nodes", path, some place⟩

/-- The node is one too many. -/
def limitEntry (path : String) (place : Nat) (limit : Limit) : Diagnostic :=
  stopEntry path place limit.label

/-- No candidate accepts the node. -/
def unidentifiedEntry (path : String) (place : Nat) (node : Node) (candidates : List Reference) :
    Diagnostic :=
  ⟨.warning, .unidentifiedNode,
    "node " ++ Text.quoted node.title ++ ":" ++ Text.quoted node.data ++
      " could not be identified (candidates: " ++ Reference.labels candidates ++ ")",
    path, some place⟩

/-- A candidate does not accept the node. -/
def rejectedEntry (path : String) (place : Nat) (node : Node) (rule : Rule) : Diagnostic :=
  ⟨.debug, .candidateRejected,
    "not " ++ rule.definition.name ++ ": " ++ (rule.rejection node).getD "", path, some place⟩

/-- A candidate accepts the node. -/
def matchedEntry (path : String) (place : Nat) (node : Node) (definition : Definition) :
    Diagnostic :=
  ⟨.debug, .nodeMatched,
    definition.describe ++ " <- " ++ Text.quoted node.title ++ ":" ++ Text.quoted node.data,
    path, some place⟩

/-- The entries about the candidates tried in vain, if they are traced. -/
def rejectedEntries (trace : Bool) (path : String) (place : Nat) (node : Node)
    (rejected : List Rule) : List Diagnostic :=
  if trace then rejected.map (rejectedEntry path place node) else []

/-- The entries that report a visit. -/
def entries (trace : Bool) (visit : Visit) : List Diagnostic :=
  let path := visit.slot.path
  match visit.finding with
  | .absent => []
  | .missing => [missingEntry path visit.slot.candidates]
  | .repeated place node => [cyclicEntry path place node]
  | .overLimit place limit => [limitEntry path place limit]
  | .unidentified place node rejected =>
    rejectedEntries trace path place node rejected ++
      [unidentifiedEntry path place node visit.slot.candidates]
  | .bound place node rejected rule =>
    rejectedEntries trace path place node rejected ++
      (if trace then [matchedEntry path place node rule.definition] else [])

/-! ### The slots that a visit opens -/

/-- The slots of the first child and of the next sibling of a node that is bound. -/
def opened (visit : Visit) : List Slot :=
  match visit.finding with
  | .bound _ node _ rule =>
    [visit.slot.childSlot rule.definition node, visit.slot.nextSlot rule.definition node]
  | _ => []

/-! ### Many visits -/

/-- The entries that report visits, in order. -/
def allEntries (trace : Bool) (visits : List Visit) : List Diagnostic :=
  visits.flatMap (entries trace)

/-- Whether nothing is wrong in any visit. -/
def allConform (visits : List Visit) : Bool :=
  visits.all fun visit => visit.finding.conforms

/-- The number of nodes that are counted. -/
def countNodes (visits : List Visit) : Nat :=
  visits.countP fun visit => visit.finding.counts

/-- What breaks the verification off in one of the visits. -/
def obstacle? (visits : List Visit) : Option Obstacle :=
  visits.findSome? fun visit => visit.finding.obstacle?

theorem allEntries_append (trace : Bool) (first second : List Visit) :
    allEntries trace (first ++ second) = allEntries trace first ++ allEntries trace second :=
  List.flatMap_append

theorem allConform_append (first second : List Visit) :
    allConform (first ++ second) = (allConform first && allConform second) :=
  List.all_append

theorem countNodes_append (first second : List Visit) :
    countNodes (first ++ second) = countNodes first + countNodes second :=
  List.countP_append

end Visit

end TreeSchema
