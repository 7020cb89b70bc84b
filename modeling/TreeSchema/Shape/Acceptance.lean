/-
This file proves that reading a text from left to right decides its shape: the
empty text is accepted exactly by the shapes that describe it, the shapes after a
first character describe exactly the rests, and so the reader accepts a text exactly
if the shape describes it.
-/
import TreeSchema.Shape

namespace TreeSchema.Shape

/-! ### What each form describes -/

theorem describes_empty {text : List Char} : Describes empty text ↔ text = [] := by
  constructor
  · intro described
    cases described
    rfl
  · rintro rfl
    exact .empty

theorem describes_one {members : CharacterClass} {text : List Char} :
    Describes (one members) text ↔
      ∃ character, members.holds character = true ∧ text = [character] := by
  constructor
  · intro described
    cases described with
    | one holds => exact ⟨_, holds, rfl⟩
  · rintro ⟨character, holds, rfl⟩
    exact .one holds

theorem describes_sequence {first second : Shape} {text : List Char} :
    Describes (sequence first second) text ↔
      ∃ front back, Describes first front ∧ Describes second back ∧ text = front ++ back := by
  constructor
  · intro described
    cases described with
    | sequence left right => exact ⟨_, _, left, right, rfl⟩
  · rintro ⟨front, back, left, right, rfl⟩
    exact .sequence left right

theorem describes_either {first second : Shape} {text : List Char} :
    Describes (either first second) text ↔ Describes first text ∨ Describes second text := by
  constructor
  · intro described
    cases described with
    | eitherFirst left => exact Or.inl left
    | eitherSecond right => exact Or.inr right
  · rintro (left | right)
    · exact .eitherFirst left
    · exact .eitherSecond right

theorem describes_followedBy {first second : Shape} {text : List Char} :
    Describes (followedBy first second) text ↔ Describes (sequence first second) text := by
  cases first with
  | empty =>
    rw [followedBy, describes_sequence]
    constructor
    · intro described
      exact ⟨[], text, .empty, described, rfl⟩
    · rintro ⟨front, back, left, right, rfl⟩
      rw [describes_empty.mp left]
      exact right
  | one members => rfl
  | sequence left right => rfl
  | either left right => rfl
  | many body => rfl

/-! ### The empty text and the first character -/

theorem acceptsEmpty_iff {shape : Shape} : shape.acceptsEmpty = true ↔ Describes shape [] := by
  induction shape with
  | empty => simp [acceptsEmpty, describes_empty]
  | one members => simp [acceptsEmpty, describes_one]
  | sequence first second firstHypothesis secondHypothesis =>
    simp [acceptsEmpty, describes_sequence, firstHypothesis, secondHypothesis]
  | either first second firstHypothesis secondHypothesis =>
    simp [acceptsEmpty, describes_either, firstHypothesis, secondHypothesis]
  | many body _ => exact ⟨fun _ => .manyDone, fun _ => rfl⟩

/-- A sequence splits a text either after its first character or before it. -/
theorem describes_sequence_cons {first second : Shape} {character : Char} {rest : List Char} :
    Describes (sequence first second) (character :: rest) ↔
      (∃ front back, Describes first (character :: front) ∧ Describes second back ∧
        rest = front ++ back) ∨
      (Describes first [] ∧ Describes second (character :: rest)) := by
  rw [describes_sequence]
  constructor
  · rintro ⟨front, back, left, right, same⟩
    cases front with
    | nil =>
      rw [List.nil_append] at same
      exact Or.inr ⟨left, same ▸ right⟩
    | cons head tail =>
      rw [List.cons_append, List.cons.injEq] at same
      obtain ⟨rfl, rfl⟩ := same
      exact Or.inl ⟨tail, back, left, right, rfl⟩
  · rintro (⟨front, back, left, right, rfl⟩ | ⟨left, right⟩)
    · exact ⟨character :: front, back, left, right, rfl⟩
    · exact ⟨[], character :: rest, left, right, rfl⟩

/-- A repetition of a text that is not empty starts with an occurrence that is not empty. -/
theorem describes_many_cons {body : Shape} {character : Char} {rest : List Char} :
    Describes (many body) (character :: rest) ↔
      ∃ front back, Describes body (character :: front) ∧ Describes (many body) back ∧
        rest = front ++ back := by
  constructor
  · generalize shapeEq : many body = shape
    generalize textEq : character :: rest = text
    intro described
    induction described with
    | empty => cases shapeEq
    | one => cases shapeEq
    | sequence => cases shapeEq
    | eitherFirst => cases shapeEq
    | eitherSecond => cases shapeEq
    | manyDone => cases textEq
    | @manyMore inner front back head tail _ tailHypothesis =>
      cases shapeEq
      cases front with
      | nil => exact tailHypothesis rfl textEq
      | cons first more =>
        rw [List.cons_append, List.cons.injEq] at textEq
        obtain ⟨rfl, rfl⟩ := textEq
        exact ⟨more, back, head, tail, rfl⟩
  · rintro ⟨front, back, head, tail, rfl⟩
    exact .manyMore head tail

theorem exists_mem_map_followedBy {shapes : List Shape} {second : Shape} {text : List Char} :
    (∃ next ∈ shapes.map (followedBy · second), Describes next text) ↔
      ∃ front back, (∃ first ∈ shapes, Describes first front) ∧ Describes second back ∧
        text = front ++ back := by
  constructor
  · rintro ⟨next, member, described⟩
    obtain ⟨first, inShapes, rfl⟩ := List.mem_map.mp member
    obtain ⟨front, back, left, right, same⟩ :=
      describes_sequence.mp (describes_followedBy.mp described)
    exact ⟨front, back, ⟨first, inShapes, left⟩, right, same⟩
  · rintro ⟨front, back, ⟨first, inShapes, left⟩, right, same⟩
    exact ⟨_, List.mem_map_of_mem inShapes,
      describes_followedBy.mpr (describes_sequence.mpr ⟨front, back, left, right, same⟩)⟩

theorem exists_mem_after {shape : Shape} {character : Char} {rest : List Char} :
    (∃ next ∈ after character shape, Describes next rest) ↔
      Describes shape (character :: rest) := by
  induction shape generalizing rest with
  | empty => simp [after, describes_empty]
  | one members =>
    rw [after, describes_one]
    split
    next holds =>
      simp only [List.mem_singleton, exists_eq_left, describes_empty, List.cons.injEq]
      exact ⟨fun same => ⟨character, holds, rfl, same⟩, fun ⟨_, _, _, same⟩ => same⟩
    next outside =>
      simp only [List.not_mem_nil, false_and, exists_false, List.cons.injEq, false_iff, not_exists]
      rintro other ⟨holds, rfl, _⟩
      exact outside holds
  | sequence first second firstHypothesis secondHypothesis =>
    rw [after, describes_sequence_cons]
    simp only [List.mem_append, or_and_right, exists_or]
    refine or_congr ?_ ?_
    · rw [exists_mem_map_followedBy]
      simp only [firstHypothesis]
    · rw [← acceptsEmpty_iff]
      split
      next accepted => simpa [accepted] using secondHypothesis
      next refused => simp [refused]
  | either first second firstHypothesis secondHypothesis =>
    rw [after, describes_either, ← firstHypothesis, ← secondHypothesis]
    simp only [List.mem_append, or_and_right, exists_or]
  | many body bodyHypothesis =>
    rw [after, describes_many_cons]
    rw [exists_mem_map_followedBy]
    simp only [bodyHypothesis]

/-! ### Words and runs -/

theorem describes_word {letters text : List Char} :
    Describes (word letters) text ↔ text = letters := by
  induction letters generalizing text with
  | nil => exact describes_empty
  | cons letter rest inductionHypothesis =>
    simp only [word, describes_sequence, describes_one, inductionHypothesis,
      CharacterClass.holds, beq_iff_eq]
    constructor
    · rintro ⟨_, _, ⟨_, rfl, rfl⟩, rfl, rfl⟩
      rfl
    · rintro rfl
      exact ⟨[letter], rest, ⟨letter, rfl, rfl⟩, rfl, rfl⟩

/-- A repetition is described piece by piece. -/
theorem describes_many {body : Shape} {text : List Char} :
    Describes (many body) text ↔
      ∃ pieces : List (List Char), (∀ piece ∈ pieces, Describes body piece) ∧
        text = pieces.flatten := by
  constructor
  · generalize shapeEq : many body = shape
    intro described
    induction described with
    | empty => cases shapeEq
    | one => cases shapeEq
    | sequence => cases shapeEq
    | eitherFirst => cases shapeEq
    | eitherSecond => cases shapeEq
    | manyDone => exact ⟨[], by simp, rfl⟩
    | manyMore head _ _ tailHypothesis =>
      cases shapeEq
      obtain ⟨pieces, described, rfl⟩ := tailHypothesis rfl
      refine ⟨_ :: pieces, ?_, rfl⟩
      intro piece member
      rcases List.mem_cons.mp member with rfl | inPieces
      · exact head
      · exact described piece inPieces
  · rintro ⟨pieces, described, rfl⟩
    induction pieces with
    | nil => exact .manyDone
    | cons piece rest inductionHypothesis =>
      exact .manyMore (described piece List.mem_cons_self)
        (inductionHypothesis fun other member => described other (List.mem_cons_of_mem _ member))

theorem describes_many_one {members : CharacterClass} {text : List Char} :
    Describes (many (one members)) text ↔
      ∀ character ∈ text, members.holds character = true := by
  induction text with
  | nil => exact ⟨fun _ => by simp, fun _ => .manyDone⟩
  | cons character rest inductionHypothesis =>
    rw [describes_many_cons, List.forall_mem_cons, ← inductionHypothesis]
    simp only [describes_one, List.cons.injEq]
    constructor
    · rintro ⟨front, back, ⟨_, holds, rfl, rfl⟩, tail, rfl⟩
      exact ⟨holds, tail⟩
    · rintro ⟨holds, tail⟩
      exact ⟨[], rest, ⟨character, holds, rfl, rfl⟩, tail, rfl⟩

theorem describes_atLeastOnce_one {members : CharacterClass} {text : List Char} :
    Describes (atLeastOnce (one members)) text ↔
      text ≠ [] ∧ ∀ character ∈ text, members.holds character = true := by
  rw [atLeastOnce, describes_sequence]
  simp only [describes_one, describes_many_one]
  constructor
  · rintro ⟨_, back, ⟨first, holds, rfl⟩, tail, rfl⟩
    refine ⟨by simp, ?_⟩
    rw [List.singleton_append, List.forall_mem_cons]
    exact ⟨holds, tail⟩
  · rintro ⟨nonempty, all⟩
    cases text with
    | nil => exact absurd rfl nonempty
    | cons first rest =>
      rw [List.forall_mem_cons] at all
      exact ⟨[first], rest, ⟨first, all.1, rfl⟩, all.2, rfl⟩

/-! ### Whole texts -/

theorem acceptsAny_iff {shapes : List Shape} {text : List Char} :
    acceptsAny shapes text = true ↔ ∃ shape ∈ shapes, Describes shape text := by
  induction text generalizing shapes with
  | nil => simp [acceptsAny, acceptsEmpty_iff]
  | cons character rest inductionHypothesis =>
    rw [acceptsAny, inductionHypothesis]
    simp only [mem_distinct, List.mem_flatMap]
    constructor
    · rintro ⟨next, ⟨shape, member, inAfter⟩, described⟩
      exact ⟨shape, member, exists_mem_after.mp ⟨next, inAfter, described⟩⟩
    · rintro ⟨shape, member, described⟩
      obtain ⟨next, inAfter, rest⟩ := exists_mem_after.mpr described
      exact ⟨next, ⟨shape, member, inAfter⟩, rest⟩

theorem accepts_iff {shape : Shape} {text : List Char} :
    shape.accepts text = true ↔ Describes shape text := by
  simp [accepts, acceptsAny_iff]

end TreeSchema.Shape
