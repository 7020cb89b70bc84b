/-
This file proves which keys are refused where a definition is read. Each part of a definition
takes the entries under its own keys and leaves all others, so what is left in the end are the
entries under keys that are unknown. A definition is read only if there are none; where they
are the reason why it is refused, the refusal names all of them, in ascending order if they
are texts.
-/
import Mathlib.Data.String.Basic
import TreeSchema.Definition.Form
import TreeSchema.Proofs.Steps

namespace TreeSchema

/-! ### Values in ascending order -/

namespace Value

theorem eq_map_of_texts? {values : List Value} {texts : List String}
    (listed : texts? values = some texts) : values = texts.map text := by
  induction values generalizing texts with
  | nil =>
    cases listed
    rfl
  | cons value values inductionHypothesis =>
    rw [texts?, List.mapM_cons] at listed
    cases value with
    | text characters =>
      rw [Option.bind_eq_bind, Option.bind_some] at listed
      obtain ⟨others, rest, same⟩ := Option.bind_eq_some_iff.mp listed
      rw [← Option.some.inj same, List.map_cons, ← inductionHypothesis rest]
    | _ => cases listed

theorem proper_textLess : Sorting.Proper fun first second : String => decide (first < second) where
  asymmetric first second less := decide_eq_false (not_lt_of_gt (of_decide_eq_true less))
  transitive first second third notLess notLessToo := by
    rw [decide_eq_false_iff_not, not_lt] at *
    exact notLess.trans notLessToo

/-- What is sorted has the same values. -/
theorem sorted?_perm {values sorted : List Value} (came : sorted? values = some sorted) :
    sorted.Perm values := by
  rw [sorted?] at came
  split at came
  · cases came
    exact .refl _
  · split at came
    next texts listed =>
      cases came
      rw [eq_map_of_texts? listed]
      exact (Sorting.sort_perm _ texts).map text
    next =>
      split at came
      · cases came
        exact Sorting.sort_perm _ values
      · cases came

/-- Texts that are sorted are in ascending order. -/
theorem sorted?_ascending {values : List Value} {texts : List String}
    (sorted : sorted? values = some (texts.map text)) : texts.Pairwise (· ≤ ·) := by
  have came := sorted
  rw [sorted?] at came
  split at came
  next short =>
    rw [Option.some.inj came, List.length_map] at short
    match texts with
    | [] => exact .nil
    | [single] => exact List.pairwise_singleton _ _
  · split at came
    next others listed =>
      have same := List.map_injective_iff.mpr (fun _ _ => Value.text.inj) (Option.some.inj came)
      rw [← same]
      refine (Sorting.sort_ordered proper_textLess others).imp fun notLess => ?_
      exact not_lt.mp (of_decide_eq_false notLess)
    next =>
      split at came
      next numeric =>
        have numbers : ∀ value ∈ texts.map text, value.isNumeric = true := fun value member =>
          List.all_eq_true.mp numeric value ((sorted?_perm sorted).mem_iff.mp member)
        match texts with
        | [] => exact .nil
        | first :: _ => cases numbers (text first) List.mem_cons_self
      · cases came

/-- The entries that stand under none of the keys. -/
def Mapping.without (keys : List String) (mapping : Mapping) : Mapping :=
  mapping.filter fun entry => !keys.any fun key => entry.1.sameKey (text key)

theorem Mapping.without_without (first second : List String) (mapping : Mapping) :
    (mapping.without first).without second = mapping.without (first ++ second) := by
  rw [without, without, without, List.filter_filter]
  refine List.filter_congr fun entry _ => ?_
  rw [List.any_append, Bool.not_or, Bool.and_comm]

theorem Mapping.take_snd (key : String) (mapping : Mapping) :
    (mapping.take key).2 = mapping.without [key] := by
  simp [take, without]

end Value

/-! ### Definitions -/

namespace Definition

variable {mapping rest : Value.Mapping}

/-- The keys of a definition, in the order in which their entries are taken. -/
def keys : List String :=
  ["name", "title_pattern", "title", "data_pattern", "data", "level"] ++
    Relation.all.map Relation.key

theorem takeTemplate_snd (key longKey : String) (mapping : Value.Mapping) :
    (takeTemplate key longKey mapping).2 = mapping.without [longKey, key] := by
  rw [takeTemplate]
  dsimp only
  rw [Value.Mapping.take_snd, Value.Mapping.take_snd, Value.Mapping.without_without]
  rfl

theorem without_of_takeLevel {level : Int} (taken : takeLevel mapping = .ok (level, rest)) :
    rest = mapping.without ["level"] := by
  rw [takeLevel] at taken
  dsimp only at taken
  split at taken
  · cases taken
    exact Value.Mapping.take_snd _ _
  · cases taken

theorem without_of_takeRelation {relation : Relation} {neighbours : Neighbours}
    (taken : takeRelation relation mapping = .ok (neighbours, rest)) :
    rest = mapping.without [relation.key] := by
  rw [takeRelation] at taken
  dsimp only at taken
  split at taken
  · cases taken
    exact Value.Mapping.take_snd _ _
  · cases taken

theorem takeLevel_ne_unknownKeys (name : String) (sorted : List Value) :
    takeLevel mapping ≠ .error (.unknownKeys name sorted) := by
  rw [takeLevel]
  dsimp only
  split <;> exact nofun

theorem takeRelation_ne_unknownKeys (relation : Relation) (name : String) (sorted : List Value) :
    takeRelation relation mapping ≠ .error (.unknownKeys name sorted) := by
  rw [takeRelation]
  dsimp only
  split <;> exact nofun

/-- The parts of a definition take the entries under its keys, one after the other. -/
theorem without_keys {afterLevel afterParents afterPrevious afterNext afterChildren : Value.Mapping}
    {level : Int} {parents previousSiblings nextSiblings children : Neighbours}
    (takenLevel : takeLevel (takeTemplate "data" "data_pattern"
      (takeTemplate "title" "title_pattern" (mapping.take "name").2).2).2 = .ok (level, afterLevel))
    (takenParents : takeRelation .parents afterLevel = .ok (parents, afterParents))
    (takenPrevious : takeRelation .previousSiblings afterParents =
      .ok (previousSiblings, afterPrevious))
    (takenNext : takeRelation .nextSiblings afterPrevious = .ok (nextSiblings, afterNext))
    (takenChildren : takeRelation .children afterNext = .ok (children, afterChildren)) :
    afterChildren = mapping.without keys := by
  rw [without_of_takeRelation takenChildren, without_of_takeRelation takenNext,
    without_of_takeRelation takenPrevious, without_of_takeRelation takenParents,
    without_of_takeLevel takenLevel]
  simp only [takeTemplate_snd, Value.Mapping.take_snd, Value.Mapping.without_without]
  rfl

theorem sorted?_of_refuseKeys {given name : String} {sorted : List Value}
    (refused : refuseKeys given rest = .error (.unknownKeys name sorted)) :
    Value.sorted? (rest.map Prod.fst) = some sorted := by
  rw [refuseKeys] at refused
  split at refused
  · cases refused
  · split at refused
    next found =>
      cases refused
      exact found
    · cases refused

/-- Where a mapping is refused for its keys, these are the keys that are unknown. -/
theorem sorted?_of_ofMapping {name : String} {sorted : List Value}
    (refused : ofMapping mapping = .error (.unknownKeys name sorted)) :
    Value.sorted? ((mapping.without keys).map Prod.fst) = some sorted := by
  unfold ofMapping at refused
  dsimp only at refused
  split at refused
  swap
  · cases refused
  rw [ok_bind] at refused
  rcases bind_eq_error_iff.mp refused with noLevel | ⟨⟨_, _⟩, level, refused⟩
  · exact absurd noLevel (takeLevel_ne_unknownKeys _ _)
  rcases bind_eq_error_iff.mp refused with noRelation | ⟨⟨_, _⟩, parents, refused⟩
  · exact absurd noRelation (takeRelation_ne_unknownKeys _ _ _)
  rcases bind_eq_error_iff.mp refused with noRelation | ⟨⟨_, _⟩, previousSiblings, refused⟩
  · exact absurd noRelation (takeRelation_ne_unknownKeys _ _ _)
  rcases bind_eq_error_iff.mp refused with noRelation | ⟨⟨_, _⟩, nextSiblings, refused⟩
  · exact absurd noRelation (takeRelation_ne_unknownKeys _ _ _)
  rcases bind_eq_error_iff.mp refused with noRelation | ⟨⟨_, _⟩, children, refused⟩
  · exact absurd noRelation (takeRelation_ne_unknownKeys _ _ _)
  rcases bind_eq_error_iff.mp refused with refused | ⟨_, _, never⟩
  · rw [← without_keys level parents previousSiblings nextSiblings children]
    exact sorted?_of_refuseKeys refused
  · cases never

/-- A definition that is refused for its keys is refused with all keys that are unknown, in ascending
order if they are texts. -/
theorem unknownKeys_of_ofForm {value : Value} {name : String} {sorted : List Value}
    (refused : ofForm value = .error (.unknownKeys name sorted)) :
    ∃ mapping, Value.Mapping.ofValue value = .ok mapping ∧
      sorted.Perm ((mapping.without keys).map Prod.fst) ∧
      ∀ texts : List String, sorted = texts.map Value.text → texts.Pairwise (· ≤ ·) := by
  rw [ofForm] at refused
  split at refused
  next mapping read =>
    have found := sorted?_of_ofMapping refused
    refine ⟨mapping, read, Value.sorted?_perm found, fun texts same => ?_⟩
    exact Value.sorted?_ascending (same ▸ found)
  · cases refused

/-- A definition that is read has no unknown keys. -/
theorem without_keys_of_ofForm {value : Value} {definition : Definition}
    (read : ofForm value = .ok definition) :
    ∃ mapping, Value.Mapping.ofValue value = .ok mapping ∧ mapping.without keys = [] := by
  rw [ofForm] at read
  split at read
  next mapping found =>
    refine ⟨mapping, found, ?_⟩
    unfold ofMapping at read
    dsimp only at read
    split at read
    · simp only [bind_eq_ok_iff, Prod.exists] at read
      obtain ⟨_, _, _, _, level, _, _, parents, _, _, previousSiblings, _, _, nextSiblings, _, _,
        children, _, accepted, _⟩ := read
      rw [← without_keys level parents previousSiblings nextSiblings children]
      rw [refuseKeys] at accepted
      split at accepted
      next none => exact List.isEmpty_iff.mp none
      · split at accepted <;> cases accepted
    · cases read
  · cases read

end Definition

end TreeSchema
