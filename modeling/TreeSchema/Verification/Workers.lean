/-
This file verifies the jobs of a batch with several workers. A job is one call: its
document is loaded and verified, and an ordinary exception that breaks this off is kept as
the answer of the call. With one worker, or one job, the calls are made one after the
other. A pool of workers finishes its calls in an order of its own; it has a place for the
answer of each call, in the order of the jobs, and the rows are made of the answers when all
of them are there. An exception that is not kept is met when the answers are collected.
-/
import TreeSchema.Verification.Batch
import TreeSchema.Verification.Direct

namespace TreeSchema

/-! ### Pools -/

/-- An order in which calls finish, each of them once. How many workers share the calls only says
which of these orders there can be. -/
structure Schedule (calls : Nat) where
  order : List Nat
  once : order.Perm (List.range calls)

namespace Pool

variable {Item Answer : Type}

/-- The answers after the call for the item at one place has finished. -/
def finish (call : Item → Answer) (items : List Item) (answers : List (Option Answer))
    (place : Nat) : List (Option Answer) :=
  answers.set place ((items[place]?).map call)

/-- The answers of all calls in the order of the items; nothing as long as one is missing. -/
def answers (call : Item → Answer) (items : List Item) (schedule : Schedule items.length) :
    Option (List Answer) :=
  (schedule.order.foldl (finish call items) (items.map fun _ => none)).mapM id

end Pool

/-! ### Jobs -/

namespace Direct

/-- What broke a verification off, as it is raised. -/
def Failure.exception : Failure → Exception
  | unknownName message => .shown "KeyError" true (Text.quoted message)
  | unreadable fault => .shown "PatternSyntaxError" true fault.message
  | notWhole (.infinite) => .shown "OverflowError" true Value.WholeFault.infinite.message
  | notWhole (.wrongKind value) => .shown "TypeError" true (Value.WholeFault.wrongKind value).message
  | notWhole fault => .shown "ValueError" true fault.message
  | severity fault => .shown "ValueError" true fault.message
  | blocked obstacle => .ofObstacle obstacle

/-- The report on a job, or what its loading or its verification raised. -/
def attempt (options : Options) (catalog : Catalog) (job : Job) : Except Exception Report := do
  let (document, root) ← job.source.load
  (verify options catalog job.schema document root job.filePath).mapError Failure.exception

/-- What came of a job. -/
def runOne (options : Options) (catalog : Catalog) (job : Job) :
    Except Exception (Except Exception Report) :=
  Job.settle (attempt options catalog job)

/-- Whether the jobs are verified one after the other. -/
def oneByOne (workers : Option Int) (jobs : List Job) : Bool :=
  workers.all (· ≤ 1) || jobs.length ≤ 1

/-- What came of each job, or what was raised. One after the other, jobs are done up to the first
that raises something; a pool does all of them, and what was raised is met where the answers are
collected. -/
def runJobs (options : Options) (catalog : Catalog) (jobs : List Job) (workers : Option Int)
    (schedule : Schedule jobs.length) : Option (Except Exception (List (Except Exception Report))) :=
  if oneByOne workers jobs then some (jobs.mapM (runOne options catalog))
  else (Pool.answers (runOne options catalog) jobs schedule).map fun answers => answers.mapM id

/-- The table of a batch, or what was raised. -/
def verifyMany (options : Options) (catalog : Catalog) (jobs : List Job) (workers : Option Int)
    (schedule : Schedule jobs.length) : Option (Except Exception (List BatchRow)) :=
  (runJobs options catalog jobs workers schedule).map fun results => results >>= Job.rows jobs

end Direct

end TreeSchema
