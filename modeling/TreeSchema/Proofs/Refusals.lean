/-
This file says where the reader of templates stops when it refuses a text. The fault is at a
character that fits its reason, or at the end of the text if a group was never closed, and what
stands before the fault is blameless: it begins a template. To show this, what was read is
continued with an `x` and with a closing bracket for each group that is still open. The `x`
fills the group that was opened last, which a repeated group needs, and it keeps a `$` at the
end of what was read apart from the brackets. The induction follows the reader, so that each
element that was read in full is put before a continuation of what came after it.
-/
import Mathlib.Data.List.Infix
import TreeSchema.Proofs.Reading

namespace TreeSchema.Template

/-! ### Texts that begin a template -/

/-- With an `x` and some closing brackets behind it, the text is written for a template. -/
def Viable (front : List Char) : Prop :=
  ∃ (template : Template) (brackets : Nat), template.WellFormed ∧ template ≠ done ∧
    Written template (front ++ 'x' :: List.replicate brackets ']')

/-- A continuation starts with no character that the text itself does not start with, the `x`
apart. -/
theorem head?_continuation_ne {front rest continuation : List Char} {character : Char}
    (different : character ≠ 'x') (apart : (front ++ rest).head? ≠ some character) :
    (front ++ 'x' :: continuation).head? ≠ some character := by
  cases front with
  | nil => exact fun same => different (Option.some.inj same).symm
  | cons => exact apart

theorem viable_nil : Viable [] := by
  refine ⟨literal ['x'] done, 0, ?_, Template.noConfusion, .literal (fun last => ?_) .done⟩
  · exact (wellFormed_consCharacter rfl trivial : (consCharacter 'x' done).WellFormed)
  · cases last

namespace Viable

variable {front rest : List Char}

theorem field {name : List Char} (viable : Viable front) (nonempty : name ≠ [])
    (unclosed : '>' ∉ name) (free : name.any isBarred = false) :
    Viable ('<' :: (name ++ '>' :: front)) := by
  obtain ⟨template, brackets, formed, _, writes⟩ := viable
  refine ⟨consField name template, brackets, wellFormed_consField nonempty unclosed free formed,
    ?_, ?_⟩
  · unfold consField
    split <;> exact Template.noConfusion
  · have written : Written (consField name template) _ := written_consField writes
    simpa using written

theorem character {character : Char} (viable : Viable front)
    (ordinary : isReserved character = false)
    (unopened : character = '$' → (front ++ rest).head? ≠ some '[') :
    Viable (character :: front) := by
  obtain ⟨template, brackets, formed, _, writes⟩ := viable
  refine ⟨consCharacter character template, brackets, wellFormed_consCharacter ordinary formed,
    consCharacter_ne_done character template,
    written_consCharacter (fun dollar => ?_) formed writes⟩
  exact head?_continuation_ne (by decide) (unopened dollar)

theorem afterGroup {opening : Opening} {inside : List Char} {body : Template}
    (viable : Viable front) (filled : ¬ (opening.repeated = true ∧ body = done))
    (formedBody : body.WellFormed) (apart : opening.marksBody = false → inside.head? ≠ some '$')
    (writesBody : Written body inside) :
    Viable (opening.text ++ (inside ++ ']' :: front)) := by
  obtain ⟨template, brackets, formed, _, writes⟩ := viable
  refine ⟨group opening.repeated body template, brackets,
    ⟨fun isRepeated empty => filled ⟨isRepeated, empty⟩, formedBody, formed⟩,
    Template.noConfusion, ?_⟩
  simpa using Written.group opening apart writesBody writes

theorem insideGroup {opening : Opening} (viable : Viable front)
    (apart : opening.marksBody = false → (front ++ rest).head? ≠ some '$') :
    Viable (opening.text ++ front) := by
  obtain ⟨template, brackets, formed, nonempty, writes⟩ := viable
  refine ⟨group opening.repeated template done, brackets + 1,
    ⟨fun _ => nonempty, formed, trivial⟩, Template.noConfusion, ?_⟩
  have closed := Written.group opening
    (fun unmarked => head?_continuation_ne (by decide) (apart unmarked)) writes .done
  simpa [List.replicate_succ'] using closed

end Viable

/-! ### Where the reader stops -/

/-- The text starts with what the reason is about. -/
def Reason.Marks : Reason → List Char → Prop
  | unclosedField, rest => rest.head? = some '<'
  | emptyField, rest => rest.head? = some '<'
  | badFieldName _, rest => rest.head? = some '<'
  | emptyRepeatedGroup, rest => rest.head? = some '[' ∨ ['$', '['] <+: rest
  | strayBracket, rest => rest.head? = some ']'
  | strayAngle, rest => rest.head? = some '>'
  | unclosedGroup, rest => rest = []

theorem Reason.Marks.eq_nil_iff {reason : Reason} {rest : List Char} (marks : reason.Marks rest) :
    rest = [] ↔ reason = .unclosedGroup := by
  constructor
  · rintro rfl
    cases reason <;> simp_all [Marks]
  · rintro rfl
    exact marks

theorem marks_of_readOpening {text body : List Char} {repeated : Bool}
    (opened : readOpening text = some (repeated, body)) : Reason.emptyRepeatedGroup.Marks text := by
  obtain ⟨opening, rfl, _⟩ := eq_append_of_readOpening opened
  cases opening with
  | plain | inner => exact Or.inl rfl
  | outer | both => exact Or.inr ⟨_, rfl⟩

/-- The reader stops behind a text that begins a template, at what its reason is about. -/
theorem exists_viable_of_error {inside : Bool} {text : List Char} {stop : Stop}
    (refused : readSequence inside text = .error stop) :
    ∃ front, text = front ++ stop.rest ∧ Viable front ∧ stop.reason.Marks stop.rest := by
  have here {reason : Reason} {rest : List Char}
      (same : (.error ⟨reason, rest⟩ : Except Stop (Taken rest)) = .error stop)
      (marks : reason.Marks rest) :
      ∃ front, rest = front ++ stop.rest ∧ Viable front ∧ stop.reason.Marks stop.rest := by
    cases same
    exact ⟨[], rfl, viable_nil, marks⟩
  fun_induction readSequence inside text with
  -- the end of the text
  | case1 => exact here refused rfl
  | case2 => cases refused
  -- a field: it is at fault, or what comes after it
  | case3 | case4 | case5 => exact here refused rfl
  | case6 inside after name following named nonempty free _ later inductionHypothesis =>
    cases refused
    obtain ⟨front, split, viable, marks⟩ := inductionHypothesis later
    obtain ⟨rfl, unclosed⟩ := eq_append_of_readName named
    refine ⟨'<' :: (name ++ '>' :: front), ?_, ?_, marks⟩
    · simp [split]
    · exact viable.field nonempty unclosed (Bool.not_eq_true _ ▸ free)
  | case7 => cases refused
  -- a closing bracket, and an angle bracket that closes nothing
  | case8 => cases refused
  | case9 | case10 => exact here refused rfl
  -- a group: its body is at fault, or the group itself, or what comes after it
  | case11 inside character after _ _ _ repeated inner opened _ within inductionHypothesis =>
    cases refused
    obtain ⟨front, rfl, viable, marks⟩ := inductionHypothesis within
    obtain ⟨opening, same, _, apart⟩ := eq_append_of_readOpening opened
    refine ⟨opening.text ++ front, ?_, viable.insideGroup apart, marks⟩
    rw [same, List.append_assoc]
  | case12 _ _ _ _ _ _ _ _ opened => exact here refused (marks_of_readOpening opened)
  | case13 inside character after _ _ _ repeated inner opened body readBody filled _ later _
      inductionHypothesis =>
    cases refused
    obtain ⟨front, split, viable, marks⟩ := inductionHypothesis later
    obtain ⟨formedBody, written, _, writes, closed, rfl⟩ :=
      begins_of_reads ⟨body, readBody, rfl, rfl⟩
    obtain ⟨opening, same, rfl, apart⟩ := eq_append_of_readOpening opened
    refine ⟨opening.text ++ (written ++ ']' :: front), ?_, ?_, marks⟩
    · rw [same, closed, split]
      simp
    · exact viable.afterGroup filled formedBody
        (fun unmarked => head?_ne_of_append (apart unmarked)) writes
  | case14 => cases refused
  -- a character of a literal: what comes after it is at fault
  | case15 inside character after notField notClose notAngle unopened _ later
      inductionHypothesis =>
    cases refused
    obtain ⟨front, rfl, viable, marks⟩ := inductionHypothesis later
    obtain ⟨notOpen, apart⟩ := readOpening_eq_none_iff.mp unopened
    have ordinary : isReserved character = false := by
      simp [isReserved, notField, notAngle, notOpen, notClose]
    exact ⟨character :: front, rfl, viable.character ordinary apart, marks⟩
  | case16 => cases refused

/-! ### Refused texts -/

theorem read_eq_error {text : String} {fault : Fault} (refused : read text = .error fault) :
    ∃ stop, readSequence false text.toList = .error stop ∧
      fault = ⟨text, text.toList.length - stop.rest.length, stop.reason⟩ := by
  unfold read readList at refused
  cases read : readSequence false text.toList with
  | ok taken =>
    rw [read] at refused
    cases refused
  | error stop =>
    rw [read] at refused
    exact ⟨stop, rfl, (Except.error.inj refused).symm⟩

/-- The position of a fault lies within the text or at its end. With an `x` and some closing
brackets in place of the rest, the part before the fault is the written form of a template. The
rest starts with what the reason is about, and it is empty exactly if a group was not closed. -/
theorem viable_of_read_eq_error {text : String} {fault : Fault}
    (refused : read text = .error fault) :
    fault.position ≤ text.length ∧
    (∃ brackets template, read (String.ofList
        (text.toList.take fault.position ++ 'x' :: List.replicate brackets ']')) = .ok template) ∧
    fault.reason.Marks (text.toList.drop fault.position) ∧
    (fault.position = text.length ↔ fault.reason = .unclosedGroup) := by
  obtain ⟨stop, stopped, rfl⟩ := read_eq_error refused
  obtain ⟨front, split, ⟨template, brackets, formed, _, writes⟩, marks⟩ :=
    exists_viable_of_error stopped
  have position : text.toList.length - stop.rest.length = front.length := by
    rw [split, List.length_append, Nat.add_sub_cancel]
  have length : text.length = front.length + stop.rest.length := by
    rw [← String.length_toList, split, List.length_append]
  dsimp only
  rw [position, split, List.take_left, List.drop_left, length]
  refine ⟨Nat.le_add_right _ _, ⟨brackets, template, ?_⟩, marks, ?_⟩
  · rw [read_eq_ok, String.toList_ofList]
    exact readList_eq_ok_iff.mpr ⟨formed, writes⟩
  · rw [← marks.eq_nil_iff, ← List.length_eq_zero_iff]
    omega

/-- An empty repeated group behind a field, in a group that is still open. -/
theorem viable_of_read_eq_error_emptyGroup :
    let fault : Fault := ⟨"[<a>$[]b", 4, .emptyRepeatedGroup⟩
    read "[<a>$[]b" = .error fault ∧ fault.position ≤ "[<a>$[]b".length ∧
    (∃ brackets template, read (String.ofList ("[<a>$[]b".toList.take fault.position ++
        'x' :: List.replicate brackets ']')) = .ok template) ∧
    fault.reason.Marks ("[<a>$[]b".toList.drop fault.position) ∧
    (fault.position = "[<a>$[]b".length ↔ fault.reason = .unclosedGroup) := by
  have refused : read "[<a>$[]b" = .error ⟨"[<a>$[]b", 4, .emptyRepeatedGroup⟩ := by cbv
  exact ⟨refused, viable_of_read_eq_error refused⟩

end TreeSchema.Template
