/-
This file states the language of a template by cutting texts into pieces, one piece
for each element, and proves that the matcher accepts exactly the texts that can be cut
in some way. A literal is a piece as it stands; an integer field is digits with an
optional minus sign; a group is a bracketed sequence of its own; a repeated group
brackets one or more such sequences with commas between them; and a free field is any
nonempty piece without its delimiters. The delimiters of a free field are said by what
stands directly after it and, at the end of a sequence, by what the sequence is part of.
-/
import TreeSchema.Template.Language

namespace TreeSchema.Template

/-- What a sequence of elements is: a whole template, or the body of a group. -/
inductive Context where
  | whole
  | group
  | repeatedGroup
  deriving DecidableEq, Repr

/-- The characters that may stand directly after a sequence. -/
def Context.delimiters : Context → List Char
  | whole => []
  | group => [']']
  | repeatedGroup => [']', ',']

/-- The characters that a free field is free of, given the elements after it. -/
def delimiters (context : Context) : Template → List Char
  | done => context.delimiters
  | literal [] _ => []
  | literal (first :: _) _ => [first]
  | field _ _ => []
  | integer _ => []
  | group _ _ _ => ['[']

/-- The pieces, in order, are pieces of the elements, one for each. -/
inductive Cut : Context → Template → List (List Char) → Prop where
  | done {context : Context} : Cut context done []
  | literal {context : Context} {text : List Char} {rest : Template} {pieces : List (List Char)}
      (tail : Cut context rest pieces) : Cut context (literal text rest) (text :: pieces)
  | field {context : Context} {name piece : List Char} {rest : Template}
      {pieces : List (List Char)} (nonempty : piece ≠ [])
      (free : ∀ character ∈ piece, character ∉ delimiters context rest)
      (tail : Cut context rest pieces) : Cut context (field name rest) (piece :: pieces)
  | integer {context : Context} {piece : List Char} {rest : Template} {pieces : List (List Char)}
      (number : IsInteger piece) (tail : Cut context rest pieces) :
      Cut context (integer rest) (piece :: pieces)
  | group {context : Context} {body rest : Template} {inside pieces : List (List Char)}
      (inner : Cut .group body inside) (tail : Cut context rest pieces) :
      Cut context (group false body rest) (('[' :: (inside.flatten ++ [']'])) :: pieces)
  | repeatedGroup {context : Context} {body rest : Template}
      {occurrences : List (List (List Char))} {pieces : List (List Char)}
      (nonempty : occurrences ≠ []) (inner : ∀ inside ∈ occurrences, Cut .repeatedGroup body inside)
      (tail : Cut context rest pieces) :
      Cut context (group true body rest)
        (('[' :: (List.intercalate [','] (occurrences.map List.flatten) ++ [']'])) :: pieces)

theorem stops_eq_delimiters (context : Context) (rest : Template) :
    stops context.delimiters rest = delimiters context rest := by
  cases rest with
  | literal text rest => cases text <;> rfl
  | _ => rfl

/-- Items that each come from something, in order, come from a list. -/
theorem exists_eq_map {Item Origin : Type} {image : Origin → Item} {good : Origin → Prop}
    {items : List Item} (each : ∀ item ∈ items, ∃ origin, good origin ∧ item = image origin) :
    ∃ origins : List Origin, (∀ origin ∈ origins, good origin) ∧ items = origins.map image := by
  induction items with
  | nil => exact ⟨[], fun _ member => absurd member List.not_mem_nil, rfl⟩
  | cons item rest inductionHypothesis =>
    rw [List.forall_mem_cons] at each
    obtain ⟨⟨origin, goodOrigin, rfl⟩, each⟩ := each
    obtain ⟨origins, goodOrigins, rfl⟩ := inductionHypothesis each
    exact ⟨origin :: origins, List.forall_mem_cons.mpr ⟨goodOrigin, goodOrigins⟩, rfl⟩

/-- A text of a sequence can be cut up. -/
theorem exists_cut_of_matches (context : Context) {template : Template} {text : List Char}
    (matched : Matches context.delimiters template text) :
    ∃ pieces, Cut context template pieces ∧ text = pieces.flatten := by
  induction template generalizing context text with
  | done =>
    cases matched with
    | done => exact ⟨[], .done, rfl⟩
  | literal letters rest restHypothesis =>
    cases matched with
    | literal tail =>
      obtain ⟨pieces, cut, rfl⟩ := restHypothesis context tail
      exact ⟨letters :: pieces, .literal cut, rfl⟩
  | field name rest restHypothesis =>
    cases matched with
    | @field _ _ piece _ _ nonempty free tail =>
      rw [stops_eq_delimiters] at free
      obtain ⟨pieces, cut, rfl⟩ := restHypothesis context tail
      exact ⟨piece :: pieces, .field nonempty free cut, rfl⟩
  | integer rest restHypothesis =>
    cases matched with
    | @integer _ piece _ _ number tail =>
      obtain ⟨pieces, cut, rfl⟩ := restHypothesis context tail
      exact ⟨piece :: pieces, .integer number cut, rfl⟩
  | group repeated body rest bodyHypothesis restHypothesis =>
    cases matched with
    | group inside tail =>
      obtain ⟨pieces, cut, rfl⟩ := restHypothesis context tail
      obtain ⟨inner, cutInner, rfl⟩ := bodyHypothesis .group inside
      exact ⟨_, .group cutInner cut, by simp⟩
    | repeatedGroup nonempty inside tail =>
      obtain ⟨pieces, cut, rfl⟩ := restHypothesis context tail
      obtain ⟨occurrences, cutEach, rfl⟩ := exists_eq_map fun piece member =>
        bodyHypothesis .repeatedGroup (inside piece member)
      refine ⟨_, .repeatedGroup ?_ cutEach cut, by simp⟩
      exact fun empty => nonempty (by rw [empty]; rfl)

/-- The pieces of a sequence make up one of its texts. -/
theorem matches_of_cut {context : Context} {template : Template} {pieces : List (List Char)}
    (cut : Cut context template pieces) :
    Matches context.delimiters template pieces.flatten := by
  induction cut with
  | done => exact .done
  | literal _ tailHypothesis => exact .literal tailHypothesis
  | field nonempty free _ tailHypothesis =>
    rw [← stops_eq_delimiters] at free
    exact .field nonempty free tailHypothesis
  | integer number _ tailHypothesis => exact .integer number tailHypothesis
  | group _ _ innerHypothesis tailHypothesis =>
    simpa using Matches.group innerHypothesis tailHypothesis
  | repeatedGroup nonempty _ _ innerHypothesis tailHypothesis =>
    have each : ∀ piece ∈ List.map List.flatten _, Matches [']', ','] _ piece :=
      List.forall_mem_map.mpr innerHypothesis
    simpa using Matches.repeatedGroup (mt List.map_eq_nil_iff.mp nonempty) each tailHypothesis

/-- A template matches exactly the texts that can be cut into pieces of its elements, with nothing
left over. -/
theorem matchesText_iff_cut {template : Template} {text : String} :
    template.matchesText text = true ↔
      ∃ pieces, Cut .whole template pieces ∧ text.toList = pieces.flatten := by
  rw [matchesText, matchesList_iff]
  constructor
  · exact exists_cut_of_matches .whole
  · intro cuttable
    obtain ⟨pieces, cut, same⟩ := cuttable
    rw [same]
    exact matches_of_cut cut

end TreeSchema.Template
