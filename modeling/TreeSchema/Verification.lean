/-
This file verifies a file against a schema: its extension, its header, and the nodes
after the header. No failure stops a verification; every one leaves an entry, and
the file conforms if none does. The entry that opens the report and the one that
closes it name the file and the schema. What breaks a verification off is found apart
from the report, which is that of a verification with nothing in its way.
-/
import TreeSchema.Verification.Extension
import TreeSchema.Verification.Header
import TreeSchema.Verification.Walk

namespace TreeSchema

/-- What a verification found. The file conforms if its extension, its header and its nodes do. -/
@[ext]
structure Report where
  filePath : String
  tag : String
  label : String
  fileExtension : String
  ok : Bool
  extensionOk : Bool
  headerOk : Bool
  nodesOk : Bool
  counted : Nat
  diagnostics : List Diagnostic
  deriving DecidableEq, Repr, Inhabited

namespace Report

/-- The entries that mean a failure. -/
def problems (report : Report) : List Diagnostic :=
  report.diagnostics.filter Diagnostic.isProblem

/-- The entries with a code. -/
def byCode (report : Report) (code : Code) : List Diagnostic :=
  report.diagnostics.filter fun entry => entry.code == code

/-- The report in a few lines: the verdict, then the errors and the warnings. -/
def summary (report : Report) : String :=
  report.filePath ++ " [" ++ report.tag ++ " " ++ report.label ++ "]: " ++
    (if report.ok then "OK" else "FAILED") ++ "\n" ++ Diagnostic.summary report.diagnostics

/-- Whether two reports say the same; the nodes that their entries point at do not count. -/
def sameReport (first second : Report) : Bool :=
  { first with diagnostics := [] } == { second with diagnostics := [] } &&
    first.diagnostics.length == second.diagnostics.length &&
    (first.diagnostics.zip second.diagnostics).all fun (left, right) => left.sameReport right

end Report

namespace Verification

/-- The entry that opens a report. -/
def startEntry (catalog : Catalog) (schema : Schema) (filePath : String) : Diagnostic :=
  ⟨.info, .start, "verifying " ++ filePath ++ " against " ++ catalog.tag ++ " " ++ schema.label, "",
    none⟩

/-- The entry about an extension that is not the required one. -/
def extensionEntry (schema : Schema) (fileExtension : String) : Diagnostic :=
  ⟨.error, .extensionMismatch,
    "file extension is " ++ Text.quoted fileExtension ++ ", expected " ++
      Text.quoted schema.fileExtension, "", none⟩

/-- The entry that closes a report. -/
def verdictEntry (catalog : Catalog) (schema : Schema) (filePath : String) (ok : Bool) :
    Diagnostic :=
  let target := catalog.tag ++ " " ++ schema.label
  if ok then ⟨.info, .verdict, filePath ++ " matches " ++ target, "", none⟩
  else ⟨.warning, .verdict, filePath ++ " does not match " ++ target, "", none⟩

/-- The slot in which the walk starts: after the header, which is the first of the siblings. -/
def firstSlot (schema : Schema) (first : Option Nat) : Slot :=
  ⟨first, schema.headCandidates.map Reference.named, [], 1⟩

end Verification

/-- The report on a document whose header is at the place given, if it has one. -/
def verify (options : Options) (catalog : Catalog) (schema : Schema) (document : Document)
    (root : Option Nat) (filePath : String) : Report :=
  let walk : Walk := ⟨document, schema.rules, options.limit⟩
  let fileExtension := extensionOf filePath
  let extensionOk := schema.matchesExtension fileExtension
  let extensionEntries :=
    if extensionOk then [] else [Verification.extensionEntry schema fileExtension]
  let header := walk.follow root
  let checked := Header.check options.trace catalog schema header
  let first := header.bind fun (_, node) => node.next
  let visits := walk.visits [] [Verification.firstSlot schema first]
  let nodesOk := Visit.allConform visits
  let ok := extensionOk && checked.1 && nodesOk
  { filePath, fileExtension, ok, extensionOk, nodesOk
    tag := catalog.tag
    label := schema.label
    headerOk := checked.1
    counted := Visit.countNodes visits
    diagnostics :=
      Verification.startEntry catalog schema filePath ::
        (extensionEntries ++ checked.2 ++ Visit.allEntries options.trace visits ++
          [Verification.verdictEntry catalog schema filePath ok]) }

theorem ok_verify (options : Options) (catalog : Catalog) (schema : Schema) (document : Document)
    (root : Option Nat) (filePath : String) :
    (verify options catalog schema document root filePath).ok =
      ((verify options catalog schema document root filePath).extensionOk &&
        (verify options catalog schema document root filePath).headerOk &&
        (verify options catalog schema document root filePath).nodesOk) := by
  simp only [verify]

/-- What breaks the verification off before there is a report. -/
def Verification.obstacle? (options : Options) (catalog : Catalog) (schema : Schema)
    (document : Document) (root : Option Nat) : Option Obstacle :=
  let walk : Walk := ⟨document, schema.rules, options.limit⟩
  let header := walk.follow root
  let first := header.bind fun (_, node) => node.next
  (Header.obstacle? catalog schema header).or
    (Visit.obstacle? (walk.visits [] [firstSlot schema first]))

/-- The report under settings as they are declared, or what breaks the verification off. -/
def verifyDeclared (settings : Settings) (catalog : Catalog) (schema : Schema)
    (document : Document) (root : Option Nat) (filePath : String) : Except Obstacle Report :=
  match Verification.obstacle? settings.options catalog schema document root with
  | some obstacle => .error obstacle
  | none => .ok (verify settings.options catalog schema document root filePath)

end TreeSchema
