/-
This file says when the brackets of a text are balanced, and proves it of every written form.
A bracket in the name of a field would be no bracket of a group, so the fields are left out of
the text first. What stands outside the fields is then counted: as many closing brackets as
opening ones, and in no part from the start on more. Counts add up along a text, so balanced
parts make a balanced whole, and a group closes the one bracket that its opening adds.
-/
import TreeSchema.Template.Written

namespace TreeSchema.Template

/-- The characters outside the fields of a text, given whether it starts within a field. -/
def outsideFields : (within : Bool) → List Char → List Char
  | _, [] => []
  | true, character :: rest => outsideFields (character != '>') rest
  | false, character :: rest =>
    if character = '<' then outsideFields true rest else character :: outsideFields false rest

/-- Closing brackets are as many as opening ones, and never more on the way. -/
structure Paired (characters : List Char) : Prop where
  closed : characters.count ']' = characters.count '['
  opened : ∀ length, (characters.take length).count ']' ≤ (characters.take length).count '['

/-- The brackets outside the fields of a text are balanced and never close more than they open. -/
def Balanced (text : List Char) : Prop := Paired (outsideFields false text)

/-! ### Brackets in pairs -/

theorem count_take_of_not_mem {characters : List Char} {character : Char}
    (lacks : character ∉ characters) (length : Nat) :
    (characters.take length).count character = 0 :=
  List.count_eq_zero.mpr fun member => lacks (List.mem_of_mem_take member)

theorem paired_of_bracketless {characters : List Char} (unopened : '[' ∉ characters)
    (unclosed : ']' ∉ characters) : Paired characters := by
  refine ⟨?_, fun length => ?_⟩
  · rw [List.count_eq_zero.mpr unopened, List.count_eq_zero.mpr unclosed]
  · rw [count_take_of_not_mem unclosed]
    exact Nat.zero_le _

namespace Paired

variable {first second : List Char}

theorem append (pairedFirst : Paired first) (pairedSecond : Paired second) :
    Paired (first ++ second) := by
  refine ⟨?_, fun length => ?_⟩
  · rw [List.count_append, List.count_append, pairedFirst.closed, pairedSecond.closed]
  · rw [List.take_append, List.count_append, List.count_append]
    exact Nat.add_le_add (pairedFirst.opened _) (pairedSecond.opened _)

/-- A closing bracket may follow if one bracket was opened before. -/
theorem enclose {before : List Char} (opens : before.count '[' = 1) (unclosed : ']' ∉ before)
    (paired : Paired first) : Paired (before ++ (first ++ [']'])) := by
  have none := List.count_eq_zero.mpr unclosed
  have single : [']'].count ']' = 1 ∧ [']'].count '[' = 0 := by decide
  refine ⟨?_, fun length => ?_⟩
  · simp only [List.count_append, opens, none, single, paired.closed]
    omega
  · simp only [List.take_append, List.count_append]
    have within := paired.opened (length - before.length)
    have noneBefore := count_take_of_not_mem unclosed length
    by_cases reached : length ≤ before.length
    · -- the part ends with the opening or in it
      have nothing : length - before.length = 0 := Nat.sub_eq_zero_of_le reached
      simp only [nothing, List.take_zero, List.count_nil, Nat.zero_sub]
      omega
    · -- the opening is whole, and its bracket pays for the closing one
      have whole : before.take length = before := List.take_of_length_le (Nat.le_of_not_le reached)
      have atMost : ([']'].take (length - before.length - first.length)).count ']' ≤ 1 :=
        single.1 ▸ (List.take_sublist _ _).count_le _
      rw [whole] at noneBefore ⊢
      omega

end Paired

/-! ### What stands outside the fields -/

theorem outsideFields_append_of_fieldless {text : List Char} (fieldless : '<' ∉ text)
    (more : List Char) : outsideFields false (text ++ more) = text ++ outsideFields false more := by
  induction text with
  | nil => rfl
  | cons character text inductionHypothesis =>
    rw [List.mem_cons, not_or] at fieldless
    rw [List.cons_append, outsideFields, if_neg (Ne.symm fieldless.1),
      inductionHypothesis fieldless.2, List.cons_append]

theorem outsideFields_name {name : List Char} (unclosed : '>' ∉ name) (more : List Char) :
    outsideFields true (name ++ '>' :: more) = outsideFields false more := by
  induction name with
  | nil => rfl
  | cons character name inductionHypothesis =>
    rw [List.mem_cons, not_or] at unclosed
    have continues : (character != '>') = true := bne_iff_ne.mpr (Ne.symm unclosed.1)
    rw [List.cons_append, outsideFields, continues, inductionHypothesis unclosed.2]

theorem outsideFields_field {name : List Char} (unclosed : '>' ∉ name) (more : List Char) :
    outsideFields false ('<' :: (name ++ '>' :: more)) = outsideFields false more := by
  rw [outsideFields, if_pos rfl, outsideFields_name unclosed]

/-! ### Written forms -/

theorem not_mem_of_unreserved {text : List Char}
    (ordinary : ∀ character ∈ text, isReserved character = false) {character : Char}
    (reserved : isReserved character = true) : character ∉ text := by
  intro member
  rw [ordinary character member] at reserved
  cases reserved

/-- A written form adds paired brackets to what follows it. -/
theorem Written.exists_paired {template : Template} {written : List Char}
    (writes : Written template written) (formed : template.WellFormed) :
    ∃ outside, Paired outside ∧
      ∀ more, outsideFields false (written ++ more) = outside ++ outsideFields false more := by
  induction writes with
  | done => exact ⟨[], paired_of_bracketless List.not_mem_nil List.not_mem_nil, fun _ => rfl⟩
  | @literal text written rest _ _ tailHypothesis =>
    obtain ⟨_, ordinary, _, formedTail⟩ := formed
    obtain ⟨outside, paired, apart⟩ := tailHypothesis formedTail
    have bracketless : Paired text := paired_of_bracketless (not_mem_of_unreserved ordinary rfl)
      (not_mem_of_unreserved ordinary rfl)
    refine ⟨text ++ outside, bracketless.append paired, fun more => ?_⟩
    rw [List.append_assoc, outsideFields_append_of_fieldless (not_mem_of_unreserved ordinary rfl),
      apart, List.append_assoc]
  | @field name written rest _ tailHypothesis =>
    obtain ⟨_, ordinary, _, formedTail⟩ := formed
    obtain ⟨outside, paired, apart⟩ := tailHypothesis formedTail
    refine ⟨outside, paired, fun more => ?_⟩
    rw [List.cons_append, List.append_assoc, List.cons_append,
      outsideFields_field (not_mem_of_unreserved ordinary rfl), apart]
  | @integer written rest _ tailHypothesis =>
    obtain ⟨outside, paired, apart⟩ := tailHypothesis formed
    refine ⟨outside, paired, fun more => ?_⟩
    rw [List.cons_append, List.append_assoc, List.cons_append, outsideFields_field (by decide),
      apart]
  | @group inside written body rest opening _ _ _ innerHypothesis tailHypothesis =>
    obtain ⟨_, formedBody, formedTail⟩ := formed
    obtain ⟨outside, paired, apart⟩ := tailHypothesis formedTail
    obtain ⟨inner, pairedInner, apartInner⟩ := innerHypothesis formedBody
    have opens : opening.text.count '[' = 1 ∧ ']' ∉ opening.text ∧ '<' ∉ opening.text := by
      cases opening <;> decide
    refine ⟨opening.text ++ (inner ++ [']']) ++ outside,
      (pairedInner.enclose opens.1 opens.2.1).append paired, fun more => ?_⟩
    have close : outsideFields false (']' :: (written ++ more)) =
        ']' :: outsideFields false (written ++ more) := by
      rw [outsideFields, if_neg (by decide)]
    rw [List.append_assoc, outsideFields_append_of_fieldless opens.2.2, List.append_assoc,
      apartInner, List.cons_append, close, apart]
    simp

theorem Written.balanced {template : Template} {written : List Char}
    (writes : Written template written) (formed : template.WellFormed) : Balanced written := by
  obtain ⟨outside, paired, apart⟩ := writes.exists_paired formed
  have same := apart []
  rw [List.append_nil, outsideFields, List.append_nil] at same
  rw [Balanced, same]
  exact paired

end TreeSchema.Template
