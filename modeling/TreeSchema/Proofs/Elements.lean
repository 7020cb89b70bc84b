/-
This file takes the language of a template apart element by element, and works out the
language of lists of integers. A repeated group of integer fields with commas between
them is the one case where the separators inside an occurrence and those between the
occurrences are the same: its texts are plain lists, and only their length tells that
they were groups.
-/
import Mathlib.Data.List.SplitLengths
import TreeSchema.Proofs.Cutting

namespace TreeSchema.Template

/-! ### One element at a time -/

section Elements

variable {closing text : List Char} {rest : Template}

theorem matches_done_iff : Matches closing done text ↔ text = [] := by
  constructor
  · intro matched
    cases matched
    rfl
  · rintro rfl
    exact .done

theorem matches_literal_iff {letters : List Char} :
    Matches closing (literal letters rest) text ↔
      ∃ more, Matches closing rest more ∧ text = letters ++ more := by
  constructor
  · intro matched
    cases matched with
    | literal tail => exact ⟨_, tail, rfl⟩
  · rintro ⟨_, tail, rfl⟩
    exact .literal tail

theorem matches_field_iff {name : List Char} :
    Matches closing (field name rest) text ↔
      ∃ piece more, piece ≠ [] ∧ (∀ character ∈ piece, character ∉ stops closing rest) ∧
        Matches closing rest more ∧ text = piece ++ more := by
  constructor
  · intro matched
    cases matched with
    | field nonempty free tail => exact ⟨_, _, nonempty, free, tail, rfl⟩
  · rintro ⟨_, _, nonempty, free, tail, rfl⟩
    exact .field nonempty free tail

theorem matches_integer_iff :
    Matches closing (integer rest) text ↔
      ∃ piece more, IsInteger piece ∧ Matches closing rest more ∧ text = piece ++ more := by
  constructor
  · intro matched
    cases matched with
    | integer number tail => exact ⟨_, _, number, tail, rfl⟩
  · rintro ⟨_, _, number, tail, rfl⟩
    exact .integer number tail

theorem matches_repeatedGroup_iff {body : Template} :
    Matches closing (group true body rest) text ↔
      ∃ pieces more, pieces ≠ [] ∧ (∀ piece ∈ pieces, Matches [']', ','] body piece) ∧
        Matches closing rest more ∧
        text = '[' :: (List.intercalate [','] pieces ++ ']' :: more) := by
  constructor
  · intro matched
    cases matched with
    | repeatedGroup nonempty inside tail => exact ⟨_, _, nonempty, inside, tail, rfl⟩
  · rintro ⟨_, _, nonempty, inside, tail, rfl⟩
    exact .repeatedGroup nonempty inside tail

/-- A last field takes any text that is not empty. -/
theorem matches_lastField_iff {name : List Char} :
    Matches [] (field name done) text ↔ text ≠ [] := by
  rw [matches_field_iff]
  constructor
  · rintro ⟨piece, more, nonempty, _, _, rfl⟩ empty
    exact nonempty (List.append_eq_nil_iff.mp empty).1
  · intro nonempty
    exact ⟨text, [], nonempty, fun _ _ => List.not_mem_nil, .done, (List.append_nil text).symm⟩

/-- A last integer field takes one integer. -/
theorem matches_lastInteger_iff : Matches closing (integer done) text ↔ IsInteger text := by
  rw [matches_integer_iff]
  constructor
  · rintro ⟨piece, _, number, tail, rfl⟩
    rw [matches_done_iff.mp tail, List.append_nil]
    exact number
  · intro number
    exact ⟨text, [], number, .done, (List.append_nil text).symm⟩

end Elements

theorem IsInteger.ne_nil {piece : List Char} (number : IsInteger piece) : piece ≠ [] := by
  obtain ⟨digits, nonempty, _, rfl | rfl⟩ := number
  · exact nonempty
  · exact List.cons_ne_nil _ _

/-! ### Lists with commas -/

theorem intercalate_append {Item : Type} {separator : List Item} {first second : List (List Item)}
    (nonempty : first ≠ []) (nonemptySecond : second ≠ []) :
    List.intercalate separator (first ++ second) =
      List.intercalate separator first ++ separator ++ List.intercalate separator second := by
  induction first with
  | nil => exact absurd rfl nonempty
  | cons item first inductionHypothesis =>
    cases first with
    | nil =>
      rw [List.singleton_append, List.intercalate_cons_of_ne_nil nonemptySecond,
        List.intercalate_singleton]
    | cons next first =>
      rw [List.cons_append, List.cons_append, List.intercalate_cons_cons,
        List.intercalate_cons_cons, ← List.cons_append,
        inductionHypothesis (List.cons_ne_nil _ _)]
      simp only [List.append_assoc]

/-- Joining groups that are themselves joined is joining all their members. -/
theorem intercalate_flatten {Item : Type} {separator : List Item}
    {groups : List (List (List Item))} (nonempty : ∀ group ∈ groups, group ≠ []) :
    List.intercalate separator (groups.map (List.intercalate separator)) =
      List.intercalate separator groups.flatten := by
  induction groups with
  | nil => rfl
  | cons group groups inductionHypothesis =>
    rw [List.forall_mem_cons] at nonempty
    rw [List.map_cons, List.flatten_cons]
    cases groups with
    | nil => rw [List.map_nil, List.intercalate_singleton, List.flatten_nil, List.append_nil]
    | cons next groups =>
      have filled : (next :: groups).flatten ≠ [] := by
        intro empty
        exact nonempty.2 next List.mem_cons_self (List.append_eq_nil_iff.mp empty).1
      rw [intercalate_append nonempty.1 filled, ← inductionHypothesis nonempty.2]
      exact List.intercalate_cons_of_ne_nil (List.cons_ne_nil _ _)

/-- A list is cut into groups of one size if its length is a multiple of the size. -/
theorem exists_groups {Item : Type} {size occurrences : Nat} {items : List Item}
    (length : items.length = occurrences * size) :
    ∃ groups : List (List Item), groups.length = occurrences ∧
      (∀ group ∈ groups, group.length = size) ∧ groups.flatten = items := by
  have total : (List.replicate occurrences size).sum = items.length := by
    rw [List.sum_replicate_nat, length]
  have lengths := List.map_splitLengths_length items _ (Nat.le_of_eq total)
  refine ⟨(List.replicate occurrences size).splitLengths items, ?_, fun group member => ?_, ?_⟩
  · rw [List.length_splitLengths, List.length_replicate]
  · refine List.eq_of_mem_replicate (n := occurrences) ?_
    rw [← lengths]
    exact List.mem_map_of_mem member
  · exact List.flatten_splitLengths items _ (Nat.le_of_eq total.symm)

theorem length_flatten_of_groups {Item : Type} {size : Nat} {groups : List (List Item)}
    (each : ∀ group ∈ groups, group.length = size) :
    groups.flatten.length = groups.length * size := by
  rw [List.length_flatten, List.map_congr_left each, List.map_const',
    List.sum_replicate_nat]

/-- Integer fields with commas between them, one more than the number given. -/
def integers : Nat → Template
  | 0 => integer done
  | count + 1 => integer (literal [','] (integers count))

theorem matches_integers_iff {closing text : List Char} {count : Nat} :
    Matches closing (integers count) text ↔
      ∃ numbers : List (List Char), numbers.length = count + 1 ∧
        (∀ number ∈ numbers, IsInteger number) ∧ text = List.intercalate [','] numbers := by
  induction count generalizing text with
  | zero =>
    rw [integers, matches_lastInteger_iff]
    constructor
    · intro isInteger
      exact ⟨[text], rfl, List.forall_mem_singleton.mpr isInteger,
        List.intercalate_singleton.symm⟩
    · rintro ⟨numbers, length, areIntegers, rfl⟩
      obtain ⟨number, rfl⟩ := List.length_eq_one_iff.mp length
      rw [List.intercalate_singleton]
      exact List.forall_mem_singleton.mp areIntegers
  | succ count inductionHypothesis =>
    rw [integers, matches_integer_iff]
    simp only [matches_literal_iff, inductionHypothesis]
    constructor
    · rintro ⟨number, _, isInteger, ⟨_, ⟨numbers, length, areIntegers, rfl⟩, rfl⟩, rfl⟩
      have nonempty : numbers ≠ [] := List.ne_nil_of_length_eq_add_one length
      refine ⟨number :: numbers, by rw [List.length_cons, length], ?_, ?_⟩
      · rw [List.forall_mem_cons]
        exact ⟨isInteger, areIntegers⟩
      · rw [List.intercalate_cons_of_ne_nil nonempty, List.append_assoc]
    · rintro ⟨numbers, length, areIntegers, rfl⟩
      obtain ⟨number, numbers, rfl⟩ := List.exists_cons_of_length_eq_add_one length
      rw [List.length_cons, Nat.add_right_cancel_iff] at length
      rw [List.forall_mem_cons] at areIntegers
      have nonempty : numbers ≠ [] := List.ne_nil_of_length_eq_add_one length
      refine ⟨number, _, areIntegers.1, ⟨_, ⟨numbers, length, areIntegers.2, rfl⟩, rfl⟩, ?_⟩
      rw [List.intercalate_cons_of_ne_nil nonempty, List.append_assoc]

/-- Groups of integers with commas between them and between the groups are a list of integers with
commas whose length is a multiple of that of a group: no comma says where a group ends. -/
theorem matches_repeatedIntegers_iff {closing text : List Char} {count : Nat} :
    Matches closing (group true (integers count) done) text ↔
      ∃ (occurrences : Nat) (numbers : List (List Char)), 0 < occurrences ∧
        numbers.length = occurrences * (count + 1) ∧ (∀ number ∈ numbers, IsInteger number) ∧
        text = '[' :: (List.intercalate [','] numbers ++ [']']) := by
  rw [matches_repeatedGroup_iff]
  simp only [matches_done_iff, matches_integers_iff]
  constructor
  · rintro ⟨pieces, _, nonempty, inside, rfl, rfl⟩
    obtain ⟨groups, each, rfl⟩ := exists_eq_map fun piece member => by
      obtain ⟨numbers, length, areIntegers, same⟩ := inside piece member
      exact ⟨numbers, And.intro length areIntegers, same⟩
    have lengths : ∀ numbers ∈ groups, numbers.length = count + 1 :=
      fun numbers member => (each numbers member).1
    refine ⟨groups.length, groups.flatten, ?_, length_flatten_of_groups lengths, ?_, ?_⟩
    · exact List.length_pos_iff.mpr fun empty => nonempty (List.map_eq_nil_iff.mpr empty)
    · rw [List.forall_mem_flatten]
      exact fun numbers member => (each numbers member).2
    · rw [intercalate_flatten fun numbers member =>
        List.ne_nil_of_length_eq_add_one (lengths numbers member)]
  · rintro ⟨occurrences, numbers, positive, length, areIntegers, rfl⟩
    obtain ⟨groups, rfl, lengths, rfl⟩ := exists_groups length
    refine ⟨groups.map (List.intercalate [',']), [], ?_, ?_, rfl, ?_⟩
    · exact fun empty => List.ne_nil_of_length_pos positive (List.map_eq_nil_iff.mp empty)
    · intro piece member
      obtain ⟨group, inGroups, rfl⟩ := List.mem_map.mp member
      exact ⟨group, lengths group inGroups,
        fun number inGroup => areIntegers number (List.mem_flatten_of_mem inGroups inGroup), rfl⟩
    · rw [intercalate_flatten fun numbers member =>
        List.ne_nil_of_length_eq_add_one (lengths numbers member)]

end TreeSchema.Template
