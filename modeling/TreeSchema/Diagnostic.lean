/-
This file holds diagnostics, the messages that a verification leaves behind, and
the log that collects them. An entry has a severity, a code, a message, the path of
the place it is about, and the place of the node it is about. A log keeps entries of
severity debug only while tracing.
-/
import TreeSchema.Text.Quoted

namespace TreeSchema

/-- How grave an entry is. No log takes an entry of another severity than the four named. -/
inductive Severity where
  | error
  | warning
  | info
  | debug
  | other (name : String)
  deriving DecidableEq, Repr, Inhabited

namespace Severity

def name : Severity → String
  | error => "error"
  | warning => "warning"
  | info => "info"
  | debug => "debug"
  | other name => name

/-- The severity of a name. -/
def ofName (name : String) : Severity :=
  if name = "error" then error
  else if name = "warning" then warning
  else if name = "info" then info
  else if name = "debug" then debug
  else other name

end Severity

/-- What an entry is about. -/
inductive Code where
  | start
  | extensionMismatch
  | headerMismatch
  | missingNode
  | unidentifiedNode
  | cyclicLink
  | nodeLimit
  | candidateRejected
  | nodeMatched
  | verdict
  | other (name : String)
  deriving DecidableEq, Repr, Inhabited

namespace Code

def name : Code → String
  | start => "start"
  | extensionMismatch => "extension-mismatch"
  | headerMismatch => "header-mismatch"
  | missingNode => "missing-node"
  | unidentifiedNode => "unidentified-node"
  | cyclicLink => "cyclic-link"
  | nodeLimit => "node-limit"
  | candidateRejected => "candidate-rejected"
  | nodeMatched => "node-matched"
  | verdict => "verdict"
  | other name => name

/-- The codes that have a meaning of their own. -/
def known : List Code :=
  [start, extensionMismatch, headerMismatch, missingNode, unidentifiedNode, cyclicLink, nodeLimit,
   candidateRejected, nodeMatched, verdict]

/-- The code of a name. -/
def ofName (name : String) : Code :=
  (known.find? fun code => code.name == name).getD (other name)

/-- Whether an entry with the code means that the file does not conform. -/
def isFailure : Code → Bool
  | extensionMismatch | headerMismatch | missingNode | unidentifiedNode | cyclicLink | nodeLimit =>
    true
  | _ => false

end Code

/-- One entry of a log. -/
structure Diagnostic where
  severity : Severity
  code : Code
  message : String
  path : String
  node : Option Nat
  deriving DecidableEq, Repr, Inhabited

namespace Diagnostic

/-- Whether two entries say the same; the nodes they point at do not count. -/
def sameReport (first second : Diagnostic) : Bool :=
  first.severity == second.severity && first.code == second.code &&
    first.message == second.message && first.path == second.path

/-- The path where it is not empty. -/
def whereText (diagnostic : Diagnostic) : String :=
  if diagnostic.path = "" then "" else " @ " ++ diagnostic.path

/-- An entry in one line. -/
def line (diagnostic : Diagnostic) : String :=
  "[" ++ diagnostic.severity.name ++ "] " ++ diagnostic.code.name ++ diagnostic.whereText ++ ": " ++
    diagnostic.message

def isProblem (diagnostic : Diagnostic) : Bool :=
  diagnostic.code.isFailure

def hasSeverity (severity : Severity) (diagnostic : Diagnostic) : Bool :=
  diagnostic.severity == severity

/-- The column names of the table of entries. -/
def columns : List String :=
  ["level", "code", "path", "message"]

/-- An entry as a row of the table. -/
def row (diagnostic : Diagnostic) : List String :=
  [diagnostic.severity.name, diagnostic.code.name, diagnostic.path, diagnostic.message]

/-- The heading and the lines of the entries of one severity, nothing where there are none. -/
def paragraph (title marker : String) (entries : List Diagnostic) : List String :=
  if entries.isEmpty then []
  else
    (title ++ " (" ++ toString entries.length ++ "):") ::
      entries.map fun entry =>
        "  " ++ marker ++ " " ++ entry.code.name ++ entry.whereText ++ ": " ++ entry.message

/-- The errors and the warnings among entries, or the statement that there are none. -/
def summary (entries : List Diagnostic) : String :=
  let lines :=
    paragraph "ERRORS" "x" (entries.filter (hasSeverity .error)) ++
      paragraph "WARNINGS" "!" (entries.filter (hasSeverity .warning))
  if lines.isEmpty then "All checks passed" else "\n".intercalate lines

end Diagnostic

/-- Collected entries, and whether entries of severity debug are kept. -/
structure Log where
  trace : Bool
  entries : List Diagnostic
  deriving DecidableEq, Repr, Inhabited

namespace Log

def empty (trace : Bool) : Log :=
  ⟨trace, []⟩

/-- A severity that a log does not know. -/
structure Fault where
  severity : String
  deriving DecidableEq, Repr, Inhabited

def Fault.message (fault : Fault) : String :=
  "unknown diagnostic level " ++ Text.quoted fault.severity

/-- The log with an entry added, unless it is one that is not kept. -/
def add (log : Log) (entry : Diagnostic) : Except Fault Log :=
  match entry.severity with
  | .other name => .error ⟨name⟩
  | .debug => .ok (if log.trace then { log with entries := log.entries ++ [entry] } else log)
  | _ => .ok { log with entries := log.entries ++ [entry] }

/-- The number of entries of a severity. -/
def count (log : Log) (severity : Severity) : Nat :=
  log.entries.countP (Diagnostic.hasSeverity severity)

/-- The entries with a code. -/
def byCode (log : Log) (code : Code) : List Diagnostic :=
  log.entries.filter fun entry => entry.code == code

/-- The entries that mean a failure. -/
def problems (log : Log) : List Diagnostic :=
  log.entries.filter Diagnostic.isProblem

end Log

end TreeSchema
