/-
This file says which texts a template matches, element by element and without
reference to any procedure: a text matches if it can be cut into one piece for each
element, in order, such that each piece is one that its element allows. The main
statement is that the matcher decides this relation.
-/
import TreeSchema.Shape.Acceptance
import TreeSchema.Template.Matcher

namespace TreeSchema.Template

/-- Digits with an optional minus sign. -/
def IsInteger (piece : List Char) : Prop :=
  ∃ digits : List Char, digits ≠ [] ∧ (∀ digit ∈ digits, '0' ≤ digit ∧ digit ≤ '9') ∧
    (piece = digits ∨ piece = '-' :: digits)

/-- The texts of a sequence that ends at one of the characters `closing`. -/
inductive Matches : (closing : List Char) → Template → List Char → Prop where
  | done {closing : List Char} : Matches closing done []
  | literal {closing text more : List Char} {rest : Template} (tail : Matches closing rest more) :
      Matches closing (literal text rest) (text ++ more)
  | field {closing name piece more : List Char} {rest : Template} (nonempty : piece ≠ [])
      (free : ∀ character ∈ piece, character ∉ stops closing rest)
      (tail : Matches closing rest more) : Matches closing (field name rest) (piece ++ more)
  | integer {closing piece more : List Char} {rest : Template} (number : IsInteger piece)
      (tail : Matches closing rest more) : Matches closing (integer rest) (piece ++ more)
  | group {closing piece more : List Char} {body rest : Template}
      (inside : Matches [']'] body piece) (tail : Matches closing rest more) :
      Matches closing (group false body rest) ('[' :: (piece ++ ']' :: more))
  | repeatedGroup {closing more : List Char} {pieces : List (List Char)} {body rest : Template}
      (nonempty : pieces ≠ []) (inside : ∀ piece ∈ pieces, Matches [']', ','] body piece)
      (tail : Matches closing rest more) :
      Matches closing (group true body rest) ('[' :: (List.intercalate [','] pieces ++ ']' :: more))

/-! ### The pieces of each element -/

theorem describes_fieldShape {stops piece : List Char} :
    Shape.Describes (fieldShape stops) piece ↔
      piece ≠ [] ∧ ∀ character ∈ piece, character ∉ stops := by
  simp [fieldShape, Shape.describes_atLeastOnce_one, CharacterClass.holds]

theorem describes_integerShape {piece : List Char} :
    Shape.Describes integerShape piece ↔ IsInteger piece := by
  simp only [integerShape, Shape.optional, Shape.describes_sequence, Shape.describes_either,
    Shape.describes_empty, Shape.describes_one, Shape.describes_atLeastOnce_one,
    CharacterClass.holds, beq_iff_eq, Bool.and_eq_true, decide_eq_true_eq, IsInteger]
  constructor
  · rintro ⟨_, digits, rfl | ⟨_, rfl, rfl⟩, ⟨nonempty, all⟩, rfl⟩
    · exact ⟨_, nonempty, all, Or.inl rfl⟩
    · exact ⟨digits, nonempty, all, Or.inr rfl⟩
  · rintro ⟨digits, nonempty, all, rfl | rfl⟩
    · exact ⟨[], _, Or.inl rfl, ⟨nonempty, all⟩, rfl⟩
    · exact ⟨['-'], digits, Or.inr ⟨'-', rfl, rfl⟩, ⟨nonempty, all⟩, rfl⟩

theorem intercalate_cons (separator : Char) (first : List Char) (rest : List (List Char)) :
    List.intercalate [separator] (first :: rest) =
      first ++ rest.flatMap fun piece => separator :: piece := by
  induction rest generalizing first with
  | nil => simp [List.intercalate]
  | cons second more inductionHypothesis =>
    have step : List.intercalate [separator] (first :: second :: more) =
        first ++ ([separator] ++ List.intercalate [separator] (second :: more)) := by
      simp [List.intercalate, List.intersperse]
    rw [step, inductionHypothesis second]
    simp

theorem describes_repeatedShape {body : Shape} {piece : List Char} :
    Shape.Describes (repeatedShape body) piece ↔
      ∃ pieces : List (List Char), pieces ≠ [] ∧ (∀ part ∈ pieces, Shape.Describes body part) ∧
        piece = List.intercalate [','] pieces := by
  have comma (part : List Char) :
      Shape.Describes (.sequence (.one (.only ',')) body) part ↔
        ∃ rest, Shape.Describes body rest ∧ part = ',' :: rest := by
    simp only [Shape.describes_sequence, Shape.describes_one, CharacterClass.holds, beq_iff_eq]
    constructor
    · rintro ⟨_, rest, ⟨_, rfl, rfl⟩, described, rfl⟩
      exact ⟨rest, described, rfl⟩
    · rintro ⟨rest, described, rfl⟩
      exact ⟨[','], rest, ⟨',', rfl, rfl⟩, described, rfl⟩
  simp only [repeatedShape, Shape.describes_sequence, Shape.describes_many, comma]
  constructor
  · rintro ⟨first, _, described, ⟨parts, each, rfl⟩, rfl⟩
    have split : ∃ rests : List (List Char), (∀ rest ∈ rests, Shape.Describes body rest) ∧
        parts = rests.map fun rest => ',' :: rest := by
      clear described
      induction parts with
      | nil => exact ⟨[], by simp, rfl⟩
      | cons part more inductionHypothesis =>
        obtain ⟨rest, restDescribed, rfl⟩ := each _ List.mem_cons_self
        obtain ⟨rests, restsDescribed, rfl⟩ :=
          inductionHypothesis fun other member => each other (List.mem_cons_of_mem _ member)
        refine ⟨rest :: rests, ?_, rfl⟩
        rw [List.forall_mem_cons]
        exact ⟨restDescribed, restsDescribed⟩
    obtain ⟨rests, restsDescribed, rfl⟩ := split
    refine ⟨first :: rests, List.cons_ne_nil _ _, ?_, ?_⟩
    · rw [List.forall_mem_cons]
      exact ⟨described, restsDescribed⟩
    · rw [intercalate_cons, List.flatMap_def]
  · rintro ⟨pieces, nonempty, each, rfl⟩
    cases pieces with
    | nil => exact absurd rfl nonempty
    | cons first rests =>
      rw [List.forall_mem_cons] at each
      refine ⟨first, _, each.1, ⟨rests.map fun rest => ',' :: rest, ?_, rfl⟩, ?_⟩
      · intro part member
        obtain ⟨rest, inRests, rfl⟩ := List.mem_map.mp member
        exact ⟨rest, each.2 rest inRests, rfl⟩
      · rw [intercalate_cons, List.flatMap_def]

/-! ### The whole template -/

theorem describes_bracketed {inner : Shape} {text : List Char} :
    Shape.Describes
      (.sequence (.one (.only '[')) (.sequence inner (.one (.only ']')))) text ↔
      ∃ piece, Shape.Describes inner piece ∧ text = '[' :: (piece ++ [']']) := by
  simp only [Shape.describes_sequence, Shape.describes_one, CharacterClass.holds, beq_iff_eq]
  constructor
  · rintro ⟨_, _, ⟨_, rfl, rfl⟩, ⟨piece, _, described, ⟨_, rfl, rfl⟩, rfl⟩, rfl⟩
    exact ⟨piece, described, rfl⟩
  · rintro ⟨piece, described, rfl⟩
    exact ⟨['['], piece ++ [']'], ⟨'[', rfl, rfl⟩,
      ⟨piece, [']'], described, ⟨']', rfl, rfl⟩, rfl⟩, rfl⟩

theorem describes_shape {closing : List Char} {template : Template} {text : List Char} :
    Shape.Describes (template.shape closing) text ↔ Matches closing template text := by
  induction template generalizing closing text with
  | done =>
    rw [shape, Shape.describes_empty]
    constructor
    · rintro rfl
      exact .done
    · intro matched
      cases matched
      rfl
  | literal letters rest restHypothesis =>
    simp only [shape, Shape.describes_sequence, Shape.describes_word, restHypothesis]
    constructor
    · rintro ⟨_, more, rfl, tail, rfl⟩
      exact .literal tail
    · intro matched
      cases matched with
      | literal tail => exact ⟨_, _, rfl, tail, rfl⟩
  | field name rest restHypothesis =>
    simp only [shape, Shape.describes_sequence, describes_fieldShape, restHypothesis]
    constructor
    · rintro ⟨piece, more, ⟨nonempty, free⟩, tail, rfl⟩
      exact .field nonempty free tail
    · intro matched
      cases matched with
      | field nonempty free tail => exact ⟨_, _, ⟨nonempty, free⟩, tail, rfl⟩
  | integer rest restHypothesis =>
    simp only [shape, Shape.describes_sequence, describes_integerShape, restHypothesis]
    constructor
    · rintro ⟨piece, more, number, tail, rfl⟩
      exact .integer number tail
    · intro matched
      cases matched with
      | integer number tail => exact ⟨_, _, number, tail, rfl⟩
  | group repeated body rest bodyHypothesis restHypothesis =>
    rw [shape, Shape.describes_sequence]
    simp only [describes_bracketed, restHypothesis]
    cases repeated with
    | false =>
      simp only [Bool.false_eq_true, if_false, bodyHypothesis, bodyClosing]
      constructor
      · rintro ⟨_, more, ⟨piece, inside, rfl⟩, tail, rfl⟩
        simpa using Matches.group inside tail
      · intro matched
        cases matched with
        | group inside tail => exact ⟨_, _, ⟨_, inside, rfl⟩, tail, by simp⟩
    | true =>
      simp only [if_true, describes_repeatedShape, bodyHypothesis, bodyClosing]
      constructor
      · rintro ⟨_, more, ⟨_, ⟨pieces, nonempty, inside, rfl⟩, rfl⟩, tail, rfl⟩
        simpa using Matches.repeatedGroup nonempty inside tail
      · intro matched
        cases matched with
        | repeatedGroup nonempty inside tail =>
          exact ⟨_, _, ⟨_, ⟨_, nonempty, inside, rfl⟩, rfl⟩, tail, by simp⟩

theorem matchesList_iff {template : Template} {text : List Char} :
    template.matchesList text = true ↔ Matches [] template text := by
  rw [matchesList, Shape.accepts_iff, describes_shape]

end TreeSchema.Template
