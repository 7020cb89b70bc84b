/-
This file proves that no template is dead. A text that a template matches is put together
element by element: a literal as it stands, one digit for an integer field, one occurrence
for a repeated group, and one character for a free field. That character must not be one at
which the field stops, and where it stops depends on what follows, out of the enclosing
group as well; but a field stops either at one character only, or at characters that end
the body of a group, none of which is a letter, so one of two letters is always free.
Conversely every element of a template that was read takes at least one character, so only
the empty template matches the empty text. A definition of a schema therefore always has a
title and data that it accepts.
-/
import Mathlib.Data.List.Basic
import TreeSchema.Proofs.Binding
import TreeSchema.Proofs.Elements
import TreeSchema.Proofs.Reading

namespace TreeSchema

namespace Template

/-! ### A text for every template -/

/-- A letter at which a field with the stops given does not stop. -/
def freeLetter (stops : List Char) : Char :=
  if 'a' ∈ stops then 'b' else 'a'

/-- A text of a sequence that ends at one of the characters `closing`. -/
def sample (closing : List Char) : Template → List Char
  | done => []
  | literal text rest => text ++ sample closing rest
  | field _ rest => freeLetter (stops closing rest) :: sample closing rest
  | integer rest => '0' :: sample closing rest
  | group repeated body rest =>
    '[' :: (sample (bodyClosing repeated) body ++ ']' :: sample closing rest)

/-- A field is not stopped by its letter, whatever follows it, in a sequence that does not end at a
letter. -/
theorem freeLetter_not_mem_stops {closing : List Char} (noLetter : 'a' ∉ closing)
    (rest : Template) : freeLetter (stops closing rest) ∉ stops closing rest := by
  cases rest with
  | done =>
    have letter : freeLetter closing = 'a' := if_neg noLetter
    rw [stops, letter]
    exact noLetter
  | literal text rest =>
    cases text with
    | nil => exact List.not_mem_nil
    | cons first text =>
      rw [stops, List.take_succ_cons, List.take_zero, freeLetter]
      split
      next among =>
        rw [← List.mem_singleton.mp among]
        decide
      next apart => exact apart
  | field name rest => exact List.not_mem_nil
  | integer rest => exact List.not_mem_nil
  | group repeated body rest =>
    rw [stops]
    decide

/-- The sample of a sequence is one of its texts. -/
theorem matches_sample {closing : List Char} (noLetter : 'a' ∉ closing) (template : Template) :
    Matches closing template (sample closing template) := by
  induction template generalizing closing with
  | done => exact .done
  | literal text rest restHypothesis => exact .literal (restHypothesis noLetter)
  | field name rest restHypothesis =>
    have free : ∀ character ∈ [freeLetter (stops closing rest)], character ∉ stops closing rest :=
      List.forall_mem_singleton.mpr (freeLetter_not_mem_stops noLetter rest)
    exact .field (List.cons_ne_nil _ _) free (restHypothesis noLetter)
  | integer rest restHypothesis =>
    have number : IsInteger ['0'] :=
      ⟨['0'], by decide, List.forall_mem_singleton.mpr (by decide), Or.inl rfl⟩
    exact .integer number (restHypothesis noLetter)
  | group repeated body rest bodyHypothesis restHypothesis =>
    have inside : Matches (bodyClosing repeated) body (sample (bodyClosing repeated) body) :=
      bodyHypothesis (by cases repeated <;> decide)
    cases repeated with
    | false => exact .group inside (restHypothesis noLetter)
    | true =>
      have each : ∀ piece ∈ [sample [']', ','] body], Matches [']', ','] body piece :=
        List.forall_mem_singleton.mpr inside
      have once := Matches.repeatedGroup (List.cons_ne_nil _ _) each (restHypothesis noLetter)
      rwa [List.intercalate_singleton] at once

/-! ### The empty text -/

/-- Of the templates that have a written form, only the empty one matches the empty text. -/
theorem matches_nil_iff {closing : List Char} {template : Template}
    (formed : template.WellFormed) : Matches closing template [] ↔ template = done := by
  constructor
  · intro matched
    cases template with
    | done => rfl
    | literal text rest =>
      obtain ⟨more, _, whole⟩ := matches_literal_iff.mp matched
      exact absurd (List.append_eq_nil_iff.mp whole.symm).1 formed.1
    | field name rest =>
      obtain ⟨piece, more, nonempty, _, _, whole⟩ := matches_field_iff.mp matched
      exact absurd (List.append_eq_nil_iff.mp whole.symm).1 nonempty
    | integer rest =>
      obtain ⟨piece, more, number, _, whole⟩ := matches_integer_iff.mp matched
      exact absurd (List.append_eq_nil_iff.mp whole.symm).1 number.ne_nil
    | group repeated body rest => cases matched
  · rintro rfl
    exact .done

/-- Only the empty text is read as the empty template. -/
theorem eq_done_iff_of_read {text : String} {template : Template}
    (isRead : read text = .ok template) : template = done ↔ text = "" := by
  have written := (readList_eq_ok_iff.mp (read_eq_ok.mp isRead)).2
  constructor
  · rintro rfl
    generalize characters : text.toList = list at written
    cases written
    exact String.toList_eq_nil_iff.mp characters
  · rintro rfl
    have readEmpty : read "" = .ok done :=
      read_eq_ok.mpr (readList_eq_ok_iff.mpr ⟨trivial, .done⟩)
    exact Except.ok.inj (isRead.symm.trans readEmpty)

/-- A template that was read matches its sample. -/
theorem matchesText_sample (template : Template) :
    template.matchesText (String.ofList (sample [] template)) = true := by
  rw [matchesText, String.toList_ofList, matchesList_iff]
  exact matches_sample List.not_mem_nil template

theorem matchesText_empty_iff {text : String} {template : Template}
    (isRead : read text = .ok template) : template.matchesText "" = true ↔ text = "" := by
  have formed := (readList_eq_ok_iff.mp (read_eq_ok.mp isRead)).1
  rw [← eq_done_iff_of_read isRead, matchesText, matchesList_iff]
  exact matches_nil_iff formed

end Template

/-- A node with the samples of both templates of a rule. -/
def Rule.sampleNode (rule : Rule) : Node :=
  .alone (String.ofList (rule.title.sample [])) (String.ofList (rule.data.sample [])) 0

theorem Rule.accepts_sampleNode (rule : Rule) : rule.accepts rule.sampleNode = true := by
  rw [accepts, Bool.and_eq_true]
  exact ⟨rule.title.matchesText_sample, rule.data.matchesText_sample⟩

/-- No template that can be read is dead: there is a text that it matches, and it matches the empty
text if and only if it is the empty text itself. So every definition of every schema accepts some
title with some data. -/
theorem exists_matchesText_and_matchesNode :
    (∀ text template, Template.read text = .ok template →
      (∃ candidate, template.matchesText candidate = true) ∧
        (template.matchesText "" = true ↔ text = "")) ∧
    ∀ schema : Schema, ∀ definition ∈ schema.definitions,
      ∃ title data, definition.matchesNode title data = .ok true := by
  constructor
  · intro text template isRead
    exact ⟨⟨_, template.matchesText_sample⟩, Template.matchesText_empty_iff isRead⟩
  · intro schema definition member
    obtain ⟨rule, made⟩ := schema.exists_rule member
    refine ⟨rule.sampleNode.title, rule.sampleNode.data, ?_⟩
    rw [Rule.matchesNode_eq_ok made, rule.accepts_sampleNode]

/-- A repeated group in which an integer field and a free field stand before a comma and before the
end of the group, with an empty group behind it. -/
theorem exists_matchesText_and_matchesNode_pairs :
    ∃ template, Template.read "a<b>[$<#>,<c>][]" = .ok template ∧
      (∃ candidate, template.matchesText candidate = true) ∧
        (template.matchesText "" = true ↔ "a<b>[$<#>,<c>][]" = "") := by
  have isRead : ∃ template, Template.read "a<b>[$<#>,<c>][]" = .ok template := ⟨_, by cbv⟩
  obtain ⟨template, isRead⟩ := isRead
  exact ⟨template, isRead, exists_matchesText_and_matchesNode.1 _ template isRead⟩

end TreeSchema
