/-
This file verifies a file in one pass over a log, with nothing prepared. Every
candidate is looked up by its name when a node is compared with it, its templates are
read for each comparison, the number in a header is read as it stands, ordinals and limits
are written where they are needed, and entries are added to the log as they arise. Each of
these steps may fail: a name may be undefined, a template may be unreadable, a text may be
no number, a number may be too long to be written, a limit may be no number, and a log
refuses an entry of a severity it does not know. Only the text of a header is expected to
be no number at times; every other failure breaks the verification off, and no report
comes of it.
-/
import TreeSchema.Definition.Match
import TreeSchema.Value.Whole
import TreeSchema.Verification

namespace TreeSchema.Direct

/-- What breaks a verification off. -/
inductive Failure where
  | unknownName (message : String)
  | unreadable (fault : Template.Fault)
  | notWhole (fault : Value.WholeFault)
  | severity (fault : Log.Fault)
  | blocked (obstacle : Obstacle)
  deriving Repr

/-! ### Single steps -/

/-- The text of a whole number. -/
def digitsOf (value : Int) : Except Failure String :=
  match Whole.text? value with
  | some digits => .ok digits
  | none => .error (.blocked .unwritable)

/-- The definition of a name that is expected to have one. -/
def definitionOf (schema : Schema) (name : String) : Except Failure Definition :=
  match schema.find? name with
  | some definition => .ok definition
  | none => .error (.unknownName (schema.unknownName name))

/-- Whether a definition accepts a node, its templates read for the purpose. -/
def accepts (definition : Definition) (node : Node) : Except Failure Bool :=
  (definition.matchesNode node.title node.data).mapError .unreadable

/-- Why a definition rejects a node, its templates read once more. -/
def rejection (definition : Definition) (node : Node) : Except Failure (Option String) :=
  (definition.mismatch node.title node.data).mapError .unreadable

/-- The log with an entry added. -/
def record (log : Log) (entry : Diagnostic) : Except Failure Log :=
  (log.add entry).mapError .severity

/-- A candidate does not accept the node. -/
def rejectedEntry (path : String) (place : Nat) (name : String) (reason : Option String) :
    Diagnostic :=
  ⟨.debug, .candidateRejected, "not " ++ name ++ ": " ++ reason.getD "None", path, some place⟩

/-- The first candidate that accepts a node, the others before it logged while tracing. -/
def choose (schema : Schema) (path : String) (place : Nat) (node : Node) :
    List Reference → Log → Except Failure (Option Definition × Log)
  | [], log => .ok (none, log)
  | .absent :: candidates, log => choose schema path place node candidates log
  | .head :: candidates, log => choose schema path place node candidates log
  | .named name :: candidates, log => do
    let definition ← definitionOf schema name
    if ← accepts definition node then return (some definition, log)
    else if log.trace then
      let reason ← rejection definition node
      let log ← record log (rejectedEntry path place name reason)
      choose schema path place node candidates log
    else choose schema path place node candidates log

/-! ### The header -/

/-- The schema that the data of a header names. A text that is no number names none. -/
def declared (catalog : Catalog) (data : String) : Except Failure (Option Schema) :=
  let text := Text.strip data
  match catalog.find? text with
  | some schema => .ok (some schema)
  | none =>
    match (Value.text text).toWhole with
    | .ok ordinal => .ok (catalog.findOrdinal? ordinal)
    | .error (.notNumeral _) => .ok none
    | .error (.tooLong _) => .ok none
    | .error .notNumber => .ok none
    | .error fault => .error (.notWhole fault)

/-- Whether the data of a header names the schema itself. The ordinal is written only for data that
is not the label. -/
def names (schema : Schema) (data : String) : Except Failure Bool :=
  if data = schema.label then .ok true
  else do
    let digits ← digitsOf schema.ordinal
    return Text.strip data == digits

/-- What is said of data that does not name the schema but names another one, or none. -/
def versionMessage (schema : Schema) (data : String) (other : Option Schema) :
    Except Failure String :=
  match other.filter fun other => other.ordinal != schema.ordinal with
  | some other => do
    let otherDigits ← digitsOf other.ordinal
    let digits ← digitsOf schema.ordinal
    return "file declares " ++ Text.quoted other.label ++ " (ordinal " ++ otherDigits ++ "), " ++
      (if other.ordinal < schema.ordinal then "older" else "newer") ++ " than " ++
      Text.quoted schema.label ++ " (ordinal " ++ digits ++ ")"
  | none =>
    .ok ("unrecognised version " ++ Text.quoted data ++ ", expected " ++ Text.quoted schema.label)

/-- The log after the title of the header was compared with the tag of the format. -/
def checkTitle (catalog : Catalog) (place : Nat) (node : Node) (log : Log) : Except Failure Log :=
  if node.title = catalog.tag then .ok log
  else
    record log (Header.mismatch (some place)
      ("format tag is " ++ Text.quoted node.title ++ ", expected " ++ Text.quoted catalog.tag))

/-- The entry about a header with nothing wrong. -/
def confirmation (schema : Schema) (place : Nat) (node : Node) : Diagnostic :=
  ⟨.debug, .nodeMatched, "header ok: " ++ node.title ++ " " ++ schema.label, Header.path,
    some place⟩

/-- Whether the header is the right one; what is wrong with it is logged. -/
def checkHeader (catalog : Catalog) (schema : Schema) :
    Option (Nat × Node) → Log → Except Failure (Bool × Log)
  | none, log => do
    let log ← record log (Header.mismatch none "file has no header node")
    return (false, log)
  | some (place, node), log => do
    let log ← checkTitle catalog place node log
    if ← names schema node.data then
      if node.title = catalog.tag then
        let log ← record log (confirmation schema place node)
        return (true, log)
      else return (false, log)
    else
      let other ← declared catalog node.data
      let message ← versionMessage schema node.data other
      let log ← record log (Header.mismatch (some place) message)
      return (false, log)

/-! ### The nodes after the header -/

/-- What a walk has come to. -/
structure Outcome where
  ok : Bool
  counted : Nat
  log : Log

/-- The walk over the slots that wait, given the nodes that were seen and what it has come to. -/
def walk (schema : Schema) (document : Document) (limit : Option Limit) (outcome : Outcome)
    (seen : List Nat) (waiting : List Slot) : Except Failure Outcome :=
  match waiting with
  | [] => .ok outcome
  | slot :: rest =>
    match _ : document.follow slot.link with
    | none =>
      if .absent ∈ slot.candidates then walk schema document limit outcome seen rest
      else do
        let log ← record outcome.log (Visit.missingEntry slot.path slot.candidates)
        walk schema document limit { outcome with ok := false, log } seen rest
    | some (place, node) =>
      if _ : place ∈ seen then do
        let log ← record outcome.log (Visit.cyclicEntry slot.path place node)
        walk schema document limit { outcome with ok := false, log } seen rest
      else
        match limit.filter fun limit => limit.bound < (outcome.counted : Int) + 1 with
        | some limit => do
          let shown ← limit.text.mapError .blocked
          let log ← record outcome.log (Visit.stopEntry slot.path place shown)
          return { outcome with ok := false, log }
        | none => do
          let (bound, log) ← choose schema slot.path place node slot.candidates outcome.log
          match bound with
          | none =>
            let log ← record log (Visit.unidentifiedEntry slot.path place node slot.candidates)
            walk schema document limit ⟨false, outcome.counted + 1, log⟩ (place :: seen) rest
          | some definition =>
            let log ← record log (Visit.matchedEntry slot.path place node definition)
            walk schema document limit ⟨outcome.ok, outcome.counted + 1, log⟩ (place :: seen)
              (slot.childSlot definition node :: slot.nextSlot definition node :: rest)
termination_by (Walk.unseen document seen, waiting.length)
decreasing_by
  · exact Prod.Lex.right _ (Nat.lt_succ_self _)
  · exact Prod.Lex.right _ (Nat.lt_succ_self _)
  · exact Prod.Lex.right _ (Nat.lt_succ_self _)
  · exact Prod.Lex.left _ _ (Walk.unseen_cons_lt (Document.follow_lt ‹_›) ‹_›)
  · exact Prod.Lex.left _ _ (Walk.unseen_cons_lt (Document.follow_lt ‹_›) ‹_›)

/-! ### One slot at a time -/

variable {schema : Schema} {document : Document} {limit : Option Limit} {slot : Slot}
  {place : Nat} {node : Node} {seen : List Nat}

theorem walk_nil (outcome : Outcome) (seen : List Nat) :
    walk schema document limit outcome seen [] = .ok outcome := by
  rw [walk]

theorem walk_allowed (nowhere : document.follow slot.link = none)
    (allowed : .absent ∈ slot.candidates) (outcome : Outcome) (seen : List Nat)
    (rest : List Slot) :
    walk schema document limit outcome seen (slot :: rest) =
      walk schema document limit outcome seen rest := by
  rw [walk]
  split
  · rw [if_pos allowed]
  next found =>
    rw [nowhere] at found
    cases found

theorem walk_missing (nowhere : document.follow slot.link = none)
    (forbidden : .absent ∉ slot.candidates) (outcome : Outcome) (seen : List Nat)
    (rest : List Slot) :
    walk schema document limit outcome seen (slot :: rest) =
      record outcome.log (Visit.missingEntry slot.path slot.candidates) >>= fun log =>
        walk schema document limit { outcome with ok := false, log } seen rest := by
  rw [walk]
  split
  · rw [if_neg forbidden]
  next found =>
    rw [nowhere] at found
    cases found

theorem walk_repeated (found : document.follow slot.link = some (place, node))
    (known : place ∈ seen) (outcome : Outcome) (rest : List Slot) :
    walk schema document limit outcome seen (slot :: rest) =
      record outcome.log (Visit.cyclicEntry slot.path place node) >>= fun log =>
        walk schema document limit { outcome with ok := false, log } seen rest := by
  rw [walk]
  split
  next nowhere =>
    rw [found] at nowhere
    cases nowhere
  next other =>
    rw [found] at other
    cases other
    rw [dif_pos known]

theorem walk_overLimit (found : document.follow slot.link = some (place, node))
    (fresh : place ∉ seen) {outcome : Outcome} {exceeded : Limit}
    (beyond : (limit.filter fun limit => limit.bound < (outcome.counted : Int) + 1) = some exceeded)
    (rest : List Slot) :
    walk schema document limit outcome seen (slot :: rest) =
      exceeded.text.mapError .blocked >>= fun shown =>
        record outcome.log (Visit.stopEntry slot.path place shown) >>= fun log =>
          .ok { outcome with ok := false, log } := by
  rw [walk]
  split
  next nowhere =>
    rw [found] at nowhere
    cases nowhere
  next other =>
    rw [found] at other
    cases other
    rw [dif_neg fresh, beyond]
    rfl

theorem walk_counted (found : document.follow slot.link = some (place, node))
    (fresh : place ∉ seen) {outcome : Outcome}
    (within : (limit.filter fun limit => limit.bound < (outcome.counted : Int) + 1) = none)
    (rest : List Slot) :
    walk schema document limit outcome seen (slot :: rest) =
      choose schema slot.path place node slot.candidates outcome.log >>= fun (bound, log) =>
        match bound with
        | none =>
          record log (Visit.unidentifiedEntry slot.path place node slot.candidates) >>= fun log =>
            walk schema document limit ⟨false, outcome.counted + 1, log⟩ (place :: seen) rest
        | some definition =>
          record log (Visit.matchedEntry slot.path place node definition) >>= fun log =>
            walk schema document limit ⟨outcome.ok, outcome.counted + 1, log⟩ (place :: seen)
              (slot.childSlot definition node :: slot.nextSlot definition node :: rest) := by
  rw [walk]
  split
  next nowhere =>
    rw [found] at nowhere
    cases nowhere
  next other =>
    rw [found] at other
    cases other
    rw [dif_neg fresh, within]

/-- The walk that starts with one slot. -/
def walkFrom (schema : Schema) (document : Document) (limit : Option Limit) (slot : Slot)
    (log : Log) : Except Failure Outcome :=
  walk schema document limit ⟨true, 0, log⟩ [] [slot]

/-! ### The whole file -/

/-- Whether the extension is the required one; one that is not is logged. -/
def checkExtension (schema : Schema) (fileExtension : String) (log : Log) :
    Except Failure (Bool × Log) :=
  if schema.matchesExtension fileExtension then .ok (true, log)
  else do
    let log ← record log (Verification.extensionEntry schema fileExtension)
    return (false, log)

/-- The report on a document whose header is at the place given, if it has one. -/
def verify (options : Options) (catalog : Catalog) (schema : Schema) (document : Document)
    (root : Option Nat) (filePath : String) : Except Failure Report := do
  let log ← record (Log.empty options.trace) (Verification.startEntry catalog schema filePath)
  let (extensionOk, log) ← checkExtension schema (extensionOf filePath) log
  let header := document.follow root
  let (headerOk, log) ← checkHeader catalog schema header log
  let first := header.bind fun (_, node) => node.next
  let outcome ←
    walkFrom schema document options.limit (Verification.firstSlot schema first) log
  let ok := extensionOk && headerOk && outcome.ok
  let log ← record outcome.log (Verification.verdictEntry catalog schema filePath ok)
  return {
    filePath, ok, extensionOk, headerOk
    tag := catalog.tag
    label := schema.label
    fileExtension := extensionOf filePath
    nodesOk := outcome.ok
    counted := outcome.counted
    diagnostics := log.entries }

end TreeSchema.Direct
