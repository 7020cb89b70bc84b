/-
This file verifies a file that is still to be loaded. The version is looked up first, and where
the catalog has none of this name nothing is loaded. What the loader does besides its answer is
left open.
-/
import TreeSchema.Verification
import TreeSchema.Verification.Exception

namespace TreeSchema

/-- Why a file comes to no report. -/
inductive FileFailure where
  | unknownVersion (fault : Catalog.LookupFault)
  | notLoaded (exception : Exception)
  | brokenOff (obstacle : Obstacle)

/-- The report on the document that a loader makes of a file, under the schema of a version. -/
def verifyFile {Effect : Type → Type} [Monad Effect] (settings : Settings) (catalog : Catalog)
    (version : Value) (filePath : String)
    (loader : String → Effect (Except Exception (Document × Option Nat))) :
    Effect (Except FileFailure Report) :=
  match catalog.getAt version with
  | .error fault => return .error (.unknownVersion fault)
  | .ok schema => do
    match ← loader filePath with
    | .error exception => return .error (.notLoaded exception)
    | .ok (document, root) =>
      return (verifyDeclared settings catalog schema document root filePath).mapError .brokenOff

end TreeSchema
