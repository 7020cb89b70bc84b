/-
This file takes the loop of a direct verification apart. A turn of the loop does what is to
be done with the slot that was popped, and the loop goes on with the slots that wait then,
or is left because a node is one too many. A run makes as many turns as it may and has come
to nothing if slots still wait. Nothing is said here about how many turns are needed.
-/
import TreeSchema.Verification.Direct

namespace TreeSchema.Direct

/-- The loop before a slot is popped: what it has come to, the nodes that were seen, and the slots
that wait. -/
structure Loop where
  outcome : Outcome
  seen : List Nat
  waiting : List Slot

/-- How the loop goes on after a turn, if it does. -/
inductive Turn where
  | goesOn (loop : Loop)
  | leaves (outcome : Outcome)

/-- The loop that begins with one slot. -/
def Loop.start (slot : Slot) (log : Log) : Loop :=
  ⟨⟨true, 0, log⟩, [], [slot]⟩

/-- The turn in which a slot is popped, the others waiting behind it. -/
def turn (schema : Schema) (document : Document) (limit : Option Limit) (outcome : Outcome)
    (seen : List Nat) (slot : Slot) (rest : List Slot) : Except Failure Turn :=
  match document.follow slot.link with
  | none =>
    if .absent ∈ slot.candidates then .ok (.goesOn ⟨outcome, seen, rest⟩)
    else do
      let log ← record outcome.log (Visit.missingEntry slot.path slot.candidates)
      return .goesOn ⟨{ outcome with ok := false, log }, seen, rest⟩
  | some (place, node) =>
    if place ∈ seen then do
      let log ← record outcome.log (Visit.cyclicEntry slot.path place node)
      return .goesOn ⟨{ outcome with ok := false, log }, seen, rest⟩
    else
      match limit.filter fun limit => limit.bound < (outcome.counted : Int) + 1 with
      | some limit => do
        let shown ← limit.text.mapError .blocked
        let log ← record outcome.log (Visit.stopEntry slot.path place shown)
        return .leaves { outcome with ok := false, log }
      | none => do
        let (bound, log) ← choose schema slot.path place node slot.candidates outcome.log
        match bound with
        | none =>
          let log ← record log (Visit.unidentifiedEntry slot.path place node slot.candidates)
          return .goesOn ⟨⟨false, outcome.counted + 1, log⟩, place :: seen, rest⟩
        | some definition =>
          let log ← record log (Visit.matchedEntry slot.path place node definition)
          return .goesOn ⟨⟨outcome.ok, outcome.counted + 1, log⟩, place :: seen,
            slot.childSlot definition node :: slot.nextSlot definition node :: rest⟩

/-- What the loop has come to when it ends, if it ends after at most the number of pops given. -/
def run (schema : Schema) (document : Document) (limit : Option Limit) :
    (pops : Nat) → Loop → Except Failure (Option Outcome)
  | 0, loop => .ok (if loop.waiting.isEmpty then some loop.outcome else none)
  | pops + 1, loop =>
    match loop.waiting with
    | [] => .ok (some loop.outcome)
    | slot :: rest => do
      match ← turn schema document limit loop.outcome loop.seen slot rest with
      | .goesOn next => run schema document limit pops next
      | .leaves outcome => return some outcome

end TreeSchema.Direct
