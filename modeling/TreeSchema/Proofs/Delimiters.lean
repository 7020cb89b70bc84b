/-
This file says how far a free field reaches before a literal. It should reach up to the literal,
wherever that occurs first. A field stops at a character, though, and not at a text: it holds
none that is the first one of the literal, whether the rest of the literal follows or not. So
where the literal occurs first, the text in front of it is taken if it is free of that
character, and otherwise the template does not match at all. For a literal of one character
this is the same, as the character itself is the literal.
-/
import Mathlib.Data.List.Infix
import TreeSchema.Proofs.Elements
import TreeSchema.Proofs.Reading

namespace TreeSchema.Template

/-- Two fields with a literal between them. -/
def between (delimiter : List Char) : Template :=
  field ['a'] (literal delimiter (field ['b'] done))

/-- The delimiter does not occur before the end of the front. -/
def OccursFirst (delimiter front back : List Char) : Prop :=
  ∀ skipped < front.length, ¬ delimiter <+: (front ++ (delimiter ++ back)).drop skipped

instance (delimiter front back : List Char) : Decidable (OccursFirst delimiter front back) :=
  inferInstanceAs (Decidable (∀ skipped < front.length, _))

section Between

variable {delimiter front back : List Char}

theorem readList_between (nonempty : delimiter ≠ [])
    (ordinary : ∀ character ∈ delimiter, isReserved character = false) :
    readList ('<' :: 'a' :: '>' :: (delimiter ++ ['<', 'b', '>'])) = .ok (between delimiter) := by
  have formedLast : (field ['b'] done).WellFormed :=
    ⟨by decide, List.forall_mem_singleton.mpr rfl, by decide, trivial⟩
  have formed : (between delimiter).WellFormed :=
    ⟨by decide, List.forall_mem_singleton.mpr rfl, by decide, nonempty, ordinary, rfl, formedLast⟩
  have apart : delimiter.getLast? = some '$' → ['<', 'b', '>'].head? ≠ some '[' :=
    fun _ => by decide
  exact readList_eq_ok_iff.mpr ⟨formed, .field (.literal apart (.field .done))⟩

/-- The texts of two fields with a literal between them: the first character of the literal does
not occur in front of it. -/
theorem matches_between_iff {text : List Char} :
    Matches [] (between delimiter) text ↔
      ∃ front back, front ≠ [] ∧ back ≠ [] ∧ (∀ character ∈ delimiter.head?, character ∉ front) ∧
        text = front ++ (delimiter ++ back) := by
  have stopping {front : List Char} :
      (∀ character ∈ front, character ∉ stops [] (literal delimiter (field ['b'] done))) ↔
        ∀ character ∈ delimiter.head?, character ∉ front := by
    simp only [stops, List.take_one, Option.mem_toList]
    exact ⟨fun free character starts inFront => free character inFront starts,
      fun free character inFront starts => free character starts inFront⟩
  rw [between, matches_field_iff]
  simp only [matches_literal_iff, matches_lastField_iff, stopping]
  constructor
  · rintro ⟨front, _, nonempty, free, ⟨back, nonemptyBack, rfl⟩, rfl⟩
    exact ⟨front, back, nonempty, nonemptyBack, free, rfl⟩
  · rintro ⟨front, back, nonempty, nonemptyBack, free, rfl⟩
    exact ⟨front, _, nonempty, free, ⟨back, nonemptyBack, rfl⟩, rfl⟩

theorem OccursFirst.length_le (first : OccursFirst delimiter front back) {before after : List Char}
    (same : front ++ (delimiter ++ back) = before ++ (delimiter ++ after)) :
    front.length ≤ before.length := by
  by_contra shorter
  refine first before.length (Nat.lt_of_not_le shorter) ?_
  rw [same, List.drop_left]
  exact List.prefix_append _ _

/-- Where the literal first occurs, the template matches if the first character of the literal does
not occur in front of it, and not otherwise. -/
theorem matches_between_of_occursFirst (first : OccursFirst delimiter front back)
    (nonempty : front ≠ []) (nonemptyBack : back ≠ []) :
    Matches [] (between delimiter) (front ++ (delimiter ++ back)) ↔
      ∀ character ∈ delimiter.head?, character ∉ front := by
  rw [matches_between_iff]
  constructor
  · rintro ⟨before, after, _, _, free, same⟩ character starts inFront
    have within : front <+: before := by
      refine List.prefix_of_prefix_length_le (List.prefix_append front (delimiter ++ back)) ?_
        (first.length_le same)
      rw [same]
      exact List.prefix_append _ _
    exact free character starts (within.subset inFront)
  · intro free
    exact ⟨front, back, nonempty, nonemptyBack, free, rfl⟩

/-- A character that occurs first behind the front does not occur in it. -/
theorem OccursFirst.not_mem {character : Char} (first : OccursFirst [character] front back) :
    character ∉ front := by
  intro member
  obtain ⟨before, after, rfl⟩ := List.append_of_mem member
  have same : (before ++ character :: after) ++ ([character] ++ back) =
      before ++ ([character] ++ (after ++ character :: back)) := by simp
  have short := first.length_le same
  rw [List.length_append, List.length_cons] at short
  omega

end Between

/-- Two fields with a literal between them match a text in which the literal occurs first behind a
front, unless the front holds the first character of the literal; so they match if that is the
whole literal. -/
theorem matchesText_between_iff {delimiter front back : String} (nonempty : delimiter ≠ "")
    (ordinary : ∀ character ∈ delimiter.toList, isReserved character = false)
    (nonemptyFront : front ≠ "") (nonemptyBack : back ≠ "")
    (first : OccursFirst delimiter.toList front.toList back.toList) :
    ∃ template, read ("<a>" ++ delimiter ++ "<b>") = .ok template ∧
      (template.matchesText (front ++ delimiter ++ back) = true ↔
        ∀ character ∈ delimiter.toList.head?, character ∉ front.toList) ∧
      (delimiter.length = 1 → template.matchesText (front ++ delimiter ++ back) = true) := by
  have characters : (front ++ delimiter ++ back).toList =
      front.toList ++ (delimiter.toList ++ back.toList) := by
    rw [String.toList_append, String.toList_append, List.append_assoc]
  have written : ("<a>" ++ delimiter ++ "<b>").toList =
      '<' :: 'a' :: '>' :: (delimiter.toList ++ ['<', 'b', '>']) := by
    rw [String.toList_append, String.toList_append]
    rfl
  have whether : (between delimiter.toList).matchesText (front ++ delimiter ++ back) = true ↔
      ∀ character ∈ delimiter.toList.head?, character ∉ front.toList := by
    rw [matchesText, matchesList_iff, characters]
    exact matches_between_of_occursFirst first (mt String.toList_eq_nil_iff.mp nonemptyFront)
      (mt String.toList_eq_nil_iff.mp nonemptyBack)
  refine ⟨between delimiter.toList, ?read, whether, fun single => ?single⟩
  case read =>
    rw [read_eq_ok, written]
    exact readList_between (mt String.toList_eq_nil_iff.mp nonempty) ordinary
  case single =>
    rw [← String.length_toList, List.length_eq_one_iff] at single
    obtain ⟨character, alone⟩ := single
    rw [alone] at first
    rw [whether, alone]
    intro other starts
    cases starts
    exact first.not_mem

/-- A comma with a blank behind it between two fields, and a text with no comma in front of it. -/
theorem matchesText_between_iff_comma :
    (", " ≠ "" ∧ (∀ character ∈ ", ".toList, isReserved character = false) ∧ "1" ≠ "" ∧ "2" ≠ "" ∧
      OccursFirst ", ".toList "1".toList "2".toList) ∧
    ∃ template, read ("<a>" ++ ", " ++ "<b>") = .ok template ∧
      (template.matchesText ("1" ++ ", " ++ "2") = true ↔
        ∀ character ∈ ", ".toList.head?, character ∉ "1".toList) ∧
      (", ".length = 1 → template.matchesText ("1" ++ ", " ++ "2") = true) := by
  have ordinary : ∀ character ∈ ", ".toList, isReserved character = false := by simp [isReserved]
  have first : OccursFirst ", ".toList "1".toList "2".toList := by decide
  exact ⟨⟨by decide, ordinary, by decide, by decide, first⟩,
    matchesText_between_iff (by decide) ordinary (by decide) (by decide) first⟩

/-- A comma in the first field, where the delimiter is a comma with a blank behind it: the delimiter
occurs only between the fields, and the template does not match. -/
theorem not_matchesText_decimalComma :
    ¬ ", ".toList <:+: "1,5".toList ∧ OccursFirst ", ".toList "1,5".toList "2".toList ∧
      ∃ template, read ("<a>" ++ ", " ++ "<b>") = .ok template ∧
        template.matchesText ("1,5" ++ ", " ++ "2") = false := by
  refine ⟨by decide, by decide, between [',', ' '], by cbv, ?_⟩
  decide +kernel

end TreeSchema.Template
