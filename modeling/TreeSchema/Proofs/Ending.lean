/-
This file proves that the loop of a walk ends on every document, whatever its links, and
after how many pops. A turn takes one slot away and may put two in its place, so the
number of slots that wait is no measure by itself. But a turn that opens slots also counts
a node that was not seen before, and the loop only ever comes to nodes that its first link
leads to. The slots that wait, with two more for each such node that was not seen, are
therefore fewer after every turn, and what the loop counts it has seen for the first time.
-/
import Mathlib.Data.Set.Card
import TreeSchema.Proofs.Declaration
import TreeSchema.Proofs.Dependence
import TreeSchema.Proofs.Limits
import TreeSchema.Verification.Loop

namespace TreeSchema

/-! ### The nodes that a link leads to -/

namespace Document

/-- The number of nodes that a link leads to. -/
noncomputable def extent (document : Document) (first : Option Nat) : Nat :=
  {place | document.Reachable first place}.ncard

/-- The number of nodes that a link leads to, apart from those that were seen. -/
noncomputable def unmet (document : Document) (first : Option Nat) (seen : List Nat) : Nat :=
  ({place | document.Reachable first place} \ {place | place ∈ seen}).ncard

variable {document : Document} {first : Option Nat}

theorem Reachable.lt_size {place : Nat} (reachable : document.Reachable first place) :
    place < document.size := by
  obtain ⟨chain, reached⟩ := reachable
  obtain ⟨node, found⟩ := exists_node_of_reach reached
  exact node?_lt found

theorem reachable_subset_range :
    {place | document.Reachable first place} ⊆ (Finset.range document.size : Set Nat) :=
  fun _ reachable => Finset.mem_coe.mpr (Finset.mem_range.mpr reachable.lt_size)

theorem unmet_cons_lt {place : Nat} {seen : List Nat}
    (reachable : document.Reachable first place) (fresh : place ∉ seen) :
    document.unmet first (place :: seen) < document.unmet first seen := by
  have finite : {place | document.Reachable first place}.Finite :=
    (Finset.finite_toSet _).subset reachable_subset_range
  refine Set.ncard_lt_ncard ?_ (finite.subset Set.sdiff_subset)
  refine (Set.ssubset_iff_of_subset ?_).mpr ⟨place, ⟨reachable, fresh⟩, ?_⟩
  · exact Set.sdiff_subset_sdiff_right fun _ member => List.mem_cons_of_mem _ member
  · exact fun outside => outside.2 List.mem_cons_self

end Document

namespace Direct

variable {schema : Schema} {document : Document} {limit : Option Limit}

/-! ### One turn -/

/-- If an entry is logged before a result is given, the result is the one for the next log. -/
theorem exists_log_of_record {Result : Type} {log : Log} {entry : Diagnostic}
    {onward : Log → Result} {result : Result}
    (recorded : (do return onward (← record log entry)) = Except.ok result) :
    ∃ next, onward next = result := by
  obtain ⟨next, _, same⟩ := bind_eq_ok_iff.mp recorded
  exact ⟨next, Except.ok.inj same⟩

/-- What a turn that fails in nothing may lead to: the slot is dropped, or the loop is left, or a
node that was not seen is counted and slots are opened at its links. -/
theorem turn_cases {outcome : Outcome} {seen : List Nat} {slot : Slot} {rest : List Slot}
    {result : Turn} (turned : turn schema document limit outcome seen slot rest = .ok result) :
    (∃ ok log, result = .goesOn ⟨⟨ok, outcome.counted, log⟩, seen, rest⟩) ∨
    (∃ ok log, result = .leaves ⟨ok, outcome.counted, log⟩) ∨
    (∃ place node, document.follow slot.link = some (place, node) ∧ place ∉ seen ∧
      ∃ ok log opened, result =
          .goesOn ⟨⟨ok, outcome.counted + 1, log⟩, place :: seen, opened ++ rest⟩ ∧
        opened.length ≤ 2 ∧ ∀ other ∈ opened, ∃ link, other.link = node.link link) := by
  unfold turn at turned
  split at turned
  · split at turned
    · cases turned
      exact Or.inl ⟨_, _, rfl⟩
    · obtain ⟨log, rfl⟩ := exists_log_of_record turned
      exact Or.inl ⟨_, _, rfl⟩
  next place node found =>
    split at turned
    · obtain ⟨log, rfl⟩ := exists_log_of_record turned
      exact Or.inl ⟨_, _, rfl⟩
    next fresh =>
      split at turned
      · obtain ⟨shown, _, turned⟩ := bind_eq_ok_iff.mp turned
        obtain ⟨log, rfl⟩ := exists_log_of_record turned
        exact Or.inr (Or.inl ⟨_, _, rfl⟩)
      · obtain ⟨⟨bound, chosen⟩, _, turned⟩ := bind_eq_ok_iff.mp turned
        refine Or.inr (Or.inr ⟨place, node, found, fresh, ?_⟩)
        cases bound with
        | none =>
          obtain ⟨log, rfl⟩ := exists_log_of_record turned
          exact ⟨_, _, [], rfl, Nat.zero_le _, fun _ member => absurd member List.not_mem_nil⟩
        | some definition =>
          obtain ⟨log, rfl⟩ := exists_log_of_record turned
          refine ⟨_, _, [slot.childSlot definition node, slot.nextSlot definition node], rfl,
            Nat.le_refl _, ?_⟩
          simp only [List.forall_mem_cons]
          exact ⟨⟨.child, rfl⟩, ⟨.next, rfl⟩, fun _ member => absurd member List.not_mem_nil⟩

/-- The slots that wait, and two more for each node that the first link leads to and that was not
seen. -/
noncomputable def Loop.pending (document : Document) (first : Option Nat) (loop : Loop) : Nat :=
  loop.waiting.length + 2 * document.unmet first loop.seen

/-- The slots that wait lead to nodes that the first link leads to, and of these the nodes that were
not seen are not counted yet. -/
structure Loop.Sound (document : Document) (first : Option Nat) (loop : Loop) : Prop where
  leads : ∀ slot ∈ loop.waiting, ∀ place, document.target slot.link = some place →
    document.Reachable first place
  counted : loop.outcome.counted + document.unmet first loop.seen ≤ document.extent first

/-- After a turn fewer slots are pending, and the loop is as sound as before; or it is left with as
many nodes counted as before. -/
theorem Loop.Sound.turn {first : Option Nat} {loop : Loop}
    (sound : loop.Sound document first) {slot : Slot} {rest : List Slot}
    (waiting : loop.waiting = slot :: rest) {result : Turn}
    (turned : turn schema document limit loop.outcome loop.seen slot rest = .ok result) :
    (∃ next, result = .goesOn next ∧ next.Sound document first ∧
      next.pending document first < loop.pending document first) ∨
    ∃ outcome, result = .leaves outcome ∧ outcome.counted = loop.outcome.counted := by
  obtain ⟨leads, counted⟩ := sound
  rw [waiting, List.forall_mem_cons] at leads
  have length : loop.waiting.length = rest.length + 1 := by rw [waiting, List.length_cons]
  rcases turn_cases turned with ⟨ok, log, rfl⟩ | ⟨ok, log, rfl⟩ | opening
  · refine Or.inl ⟨_, rfl, ⟨leads.2, counted⟩, ?_⟩
    simp only [pending, length]
    omega
  · exact Or.inr ⟨_, rfl, rfl⟩
  · obtain ⟨place, node, found, fresh, ok, log, opened, rfl, few, linked⟩ := opening
    have reachable : document.Reachable first place :=
      leads.1 place (Document.target_eq_some_iff.mpr ⟨node, found⟩)
    have fewer := Document.unmet_cons_lt reachable fresh
    refine Or.inl ⟨_, rfl, ⟨fun other member next target => ?_, ?_⟩, ?_⟩
    · rcases List.mem_append.mp member with isOpened | inRest
      · obtain ⟨link, same⟩ := linked other isOpened
        exact reachable.link (Document.follow_eq_some_iff.mp found).2 (same ▸ target)
      · exact leads.2 other inRest next target
    · show loop.outcome.counted + 1 + document.unmet first (place :: loop.seen) ≤ _
      omega
    · simp only [pending, length, List.length_append]
      omega

end Direct

end TreeSchema
