/-
This file verifies many files and tabulates what came of them, one row a file in the
order of the jobs. A file that could not be loaded or verified has a row of its own, and
the other files are verified all the same, unless what was raised is no ordinary exception
or cannot be shown.
-/
import TreeSchema.Verification
import TreeSchema.Verification.Exception

namespace TreeSchema

/-- Where the document of a job comes from, with the place of its header: it is given, or a loader
makes it when the job is done. -/
inductive Source where
  | given (document : Document) (root : Option Nat)
  | loader (load : Unit → Except Exception (Document × Option Nat))

/-- The document of a source, or what its loader raised. -/
def Source.load : Source → Except Exception (Document × Option Nat)
  | given document root => .ok (document, root)
  | loader load => load ()

/-- One file to verify. -/
structure Job where
  filePath : String
  schema : Schema
  source : Source

/-- One row of the table. -/
structure BatchRow where
  filePath : String
  label : String
  ok : Bool
  extensionOk : Bool
  headerOk : Bool
  nodesOk : Bool
  counted : Nat
  errors : Nat
  warnings : Nat
  firstProblem : String
  deriving DecidableEq, Repr, Inhabited

namespace BatchRow

/-- The column names of the table. -/
def columns : List String :=
  ["file_path", "version", "ok", "extension_ok", "header_ok", "nodes_ok", "n_nodes", "n_errors",
   "n_warnings", "first_problem"]

/-- The row of a file that could not be loaded or verified, for an exception of a kind that is shown
by a text. -/
def ofFailure (job : Job) (kind text : String) : BatchRow where
  filePath := job.filePath
  label := job.schema.label
  ok := false
  extensionOk := false
  headerOk := false
  nodesOk := false
  counted := 0
  errors := 1
  warnings := 0
  firstProblem := "load failed (" ++ kind ++ ": " ++ text ++ ")"

/-- The row of a report. Errors are counted among all entries, warnings among the problems. -/
def ofReport (report : Report) : BatchRow where
  filePath := report.filePath
  label := report.label
  ok := report.ok
  extensionOk := report.extensionOk
  headerOk := report.headerOk
  nodesOk := report.nodesOk
  counted := report.counted
  errors := report.diagnostics.countP (Diagnostic.hasSeverity .error)
  warnings := report.problems.countP (Diagnostic.hasSeverity .warning)
  firstProblem := (report.problems.head?.map Diagnostic.line).getD ""

end BatchRow

namespace Job

/-- The report on a job, or what was raised instead. -/
def attempt (settings : Settings) (catalog : Catalog) (job : Job) : Except Exception Report := do
  let (document, root) ← job.source.load
  (verifyDeclared settings catalog job.schema document root job.filePath).mapError .ofObstacle

/-- What came of a job. An ordinary exception is kept as the answer; any other one is raised. -/
def settle (attempt : Except Exception Report) : Except Exception (Except Exception Report) :=
  match attempt with
  | .ok report => .ok (.ok report)
  | .error exception =>
    if exception.isOrdinary then .ok (.error exception) else .error exception

/-- The row of a job, given what came of it. -/
def row (job : Job) : Except Exception Report → Except Exception BatchRow
  | .ok report => .ok (.ofReport report)
  | .error exception => exception.text.map (.ofFailure job exception.kind)

/-- The rows of jobs, given what came of each. -/
def rows (jobs : List Job) (results : List (Except Exception Report)) :
    Except Exception (List BatchRow) :=
  (jobs.zip results).mapM fun (job, result) => job.row result

end Job

/-- The rows of jobs, in their order. The rows are made when all jobs are done. -/
def verifyMany (settings : Settings) (catalog : Catalog) (jobs : List Job) :
    Except Exception (List BatchRow) := do
  Job.rows jobs (← jobs.mapM fun job => Job.settle (job.attempt settings catalog))

end TreeSchema
