/-
This file proves what comes of steps that may fail. A step that fails is the end, so a row of
steps succeeds exactly if each of them does, and where it fails, one of them failed in the
same way. Reading a list, constructing a schema and verifying the files of a batch are rows of
this kind.
-/
import Mathlib.Data.List.Forall2

namespace TreeSchema

variable {Fault : Type}

/-! ### One step after another -/

/-- A step that succeeds is followed by the rest. -/
theorem ok_bind {First Second : Type} (value : First) (rest : First → Except Fault Second) :
    (Except.ok value >>= rest) = rest value := rfl

/-- A step succeeds with what follows it exactly if both succeed one after the other. -/
theorem bind_eq_ok_iff {First Second : Type} {first : Except Fault First}
    {next : First → Except Fault Second} {result : Second} :
    (first >>= next) = .ok result ↔ ∃ value, first = .ok value ∧ next value = .ok result := by
  cases first with
  | ok value =>
    refine ⟨fun same => ⟨value, rfl, same⟩, fun both => ?_⟩
    obtain ⟨_, same, rest⟩ := both
    cases same
    exact rest
  | error fault => exact ⟨nofun, nofun⟩

/-- It fails if the step does, or else if what follows does. -/
theorem bind_eq_error_iff {First Second : Type} {first : Except Fault First}
    {next : First → Except Fault Second} {fault : Fault} :
    (first >>= next) = .error fault ↔
      first = .error fault ∨ ∃ value, first = .ok value ∧ next value = .error fault := by
  cases first with
  | ok value =>
    rw [ok_bind, or_iff_right nofun]
    refine ⟨fun same => ⟨value, rfl, same⟩, fun both => ?_⟩
    obtain ⟨_, same, rest⟩ := both
    cases same
    exact rest
  | error other =>
    have ended : (Except.error other >>= next) = .error other := rfl
    rw [or_iff_left nofun, ended, Except.error.injEq, Except.error.injEq]

section Lists

variable {Item Result : Type} {step : Item → Except Fault Result} {items : List Item}

/-- There are results exactly if each item comes to its own. -/
theorem mapM_eq_ok_iff {results : List Result} :
    items.mapM step = .ok results ↔
      List.Forall₂ (fun item result => step item = .ok result) items results := by
  induction items generalizing results with
  | nil =>
    rw [List.mapM_nil, List.forall₂_nil_left_iff]
    exact ⟨fun same => (Except.ok.inj same).symm, fun empty => empty ▸ rfl⟩
  | cons item items inductionHypothesis =>
    rw [List.mapM_cons, List.forall₂_cons_left_iff, bind_eq_ok_iff]
    refine exists_congr fun result => ?_
    rw [bind_eq_ok_iff]
    simp only [inductionHypothesis, exists_and_left, pure, Except.pure, Except.ok.injEq]
    exact and_congr_right fun _ => exists_congr fun rest => and_congr_right fun _ => eq_comm

/-- Where each content is read back from what was written of it, so is the list of them. -/
theorem mapM_map_eq_ok {Form : Type} {write : Result → Form} {read : Form → Except Fault Result}
    {contents : List Result} (back : ∀ content ∈ contents, read (write content) = .ok content) :
    (contents.map write).mapM read = .ok contents := by
  rw [mapM_eq_ok_iff, List.forall₂_map_left_iff, List.forall₂_same]
  exact back

end Lists

end TreeSchema
