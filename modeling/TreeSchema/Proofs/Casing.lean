/-
This file compares the lower cases of a text in several spellings. A text is mapped letter by
letter, and only what becomes of a capital sigma depends on the rest of the text: on whether it
ends a word. So lower case does not change a text in lower case, the lower cases of one text behind
two different fronts differ exactly where a capital sigma ends a word behind one of them only, and
a text has the lower case of its upper case exactly if its letters are steady and each small sigma
has the form that its place asks for.
-/
import TreeSchema.Proofs.Letters

namespace TreeSchema.Text

/-! ### One letter in its place -/

/-- A letter between the two texts ends a word. -/
def endsWord (before after : List Char) : Bool :=
  meetsCased before.reverse && !meetsCased after

/-- The lower case of one letter in its place, the characters before it given the nearest first. -/
def lowerAt (passed : List Char) (letter : Char) (after : List Char) : List Char :=
  if letter = 'Σ' then if meetsCased passed && !meetsCased after then ['ς'] else ['σ']
  else lowerLetter letter

theorem lowerFrom_cons (passed : List Char) (letter : Char) (rest : List Char) :
    lowerFrom passed (letter :: rest) =
      lowerAt passed letter rest ++ lowerFrom (letter :: passed) rest :=
  rfl

theorem lowerAt_of_ne (passed : List Char) {letter : Char} (after : List Char)
    (other : letter ≠ 'Σ') : lowerAt passed letter after = lowerLetter letter :=
  if_neg other

theorem lowerAt_capitalSigma (before after : List Char) :
    lowerAt before.reverse 'Σ' after = if endsWord before after then ['ς'] else ['σ'] :=
  if_pos rfl

/-- Both forms of the small sigma are in lower case. -/
theorem lowerLetter_sigma : lowerLetter 'σ' = ['σ'] ∧ lowerLetter 'ς' = ['ς'] ∧
    lowerLetter 'Σ' = ['σ'] := by
  decide +kernel

/-- The place of a letter decides on the form of its lower case only. -/
theorem length_lowerAt (passed : List Char) (letter : Char) (after : List Char) :
    (lowerAt passed letter after).length = (lowerLetter letter).length := by
  by_cases sigma : letter = 'Σ'
  · rw [sigma, lowerLetter_sigma.2.2, lowerAt, if_pos rfl]
    split <;> rfl
  · rw [lowerAt_of_ne passed after sigma]

theorem mem_lowerAt {passed after : List Char} {letter lowered : Char}
    (member : lowered ∈ lowerAt passed letter after) :
    lowered ≠ 'Σ' ∧ lowerLetter lowered = [lowered] := by
  by_cases sigma : letter = 'Σ'
  · rw [sigma, lowerAt, if_pos rfl] at member
    split at member <;> rw [List.mem_singleton] at member <;> subst member
    · exact ⟨by decide, lowerLetter_sigma.2.1⟩
    · exact ⟨by decide, lowerLetter_sigma.1⟩
  · rw [lowerAt_of_ne passed after sigma] at member
    refine ⟨?_, lowerLetter_of_mem member⟩
    rintro rfl
    exact capitalSigma_not_mem_lowerLetter letter member

/-! ### Lower case once more -/

theorem mem_lowerFrom {passed text : List Char} {lowered : Char}
    (member : lowered ∈ lowerFrom passed text) :
    lowered ≠ 'Σ' ∧ lowerLetter lowered = [lowered] := by
  induction text generalizing passed with
  | nil => exact absurd member List.not_mem_nil
  | cons letter rest inductionHypothesis =>
    rw [lowerFrom_cons, List.mem_append] at member
    exact member.elim mem_lowerAt inductionHypothesis

theorem lowerFrom_of_lowered {text : List Char}
    (lowered : ∀ letter ∈ text, letter ≠ 'Σ' ∧ lowerLetter letter = [letter])
    (passed : List Char) : lowerFrom passed text = text := by
  induction text generalizing passed with
  | nil => rfl
  | cons letter rest inductionHypothesis =>
    obtain ⟨⟨other, same⟩, others⟩ := List.forall_mem_cons.mp lowered
    rw [lowerFrom_cons, lowerAt_of_ne passed rest other, same, inductionHypothesis others]
    rfl

theorem lowerFrom_lowerFrom (first second text : List Char) :
    lowerFrom first (lowerFrom second text) = lowerFrom second text :=
  lowerFrom_of_lowered (fun _ member => mem_lowerFrom member) first

/-! ### Throughout a text -/

/-- The condition holds of each letter of the text with what stands before and after it. -/
def Throughout (condition : List Char → Char → List Char → Prop) (text : List Char) : Prop :=
  ∀ before letter after, text = before ++ letter :: after → condition before letter after

theorem throughout_nil (condition : List Char → Char → List Char → Prop) :
    Throughout condition [] := by
  intro before letter after split
  exact absurd split.symm
    (List.append_ne_nil_of_right_ne_nil before (List.cons_ne_nil letter after))

theorem throughout_cons {condition : List Char → Char → List Char → Prop} {letter : Char}
    {rest : List Char} : Throughout condition (letter :: rest) ↔
      condition [] letter rest ∧
        Throughout (fun before => condition (letter :: before)) rest := by
  constructor
  · intro throughout
    refine ⟨throughout [] letter rest rfl, fun before middle after split => ?_⟩
    exact throughout (letter :: before) middle after (congrArg (letter :: ·) split)
  · rintro ⟨here, behind⟩ before middle after split
    cases before with
    | nil =>
      obtain ⟨rfl, rfl⟩ := List.cons_eq_cons.mp split
      exact here
    | cons first others =>
      obtain ⟨rfl, rest⟩ := List.cons_eq_cons.mp split
      exact behind others middle after rest

/-! ### Behind two fronts -/

/-- The lower case of a capital sigma tells whether it ends a word. -/
theorem sigma_forms_eq_iff (first second : Bool) :
    (if first then ['ς'] else ['σ']) = (if second then ['ς'] else ['σ']) ↔ first = second := by
  cases first <;> cases second <;> decide

/-- The text has the same lower case behind both fronts exactly if each capital sigma ends a word
behind both or behind none of them. -/
theorem lowerFrom_eq_lowerFrom_iff (first second text : List Char) :
    lowerFrom first.reverse text = lowerFrom second.reverse text ↔
      Throughout (fun before letter after => letter = 'Σ' →
        endsWord (first ++ before) after = endsWord (second ++ before) after) text := by
  induction text generalizing first second with
  | nil => exact iff_of_true rfl (throughout_nil _)
  | cons letter rest inductionHypothesis =>
    have behind := inductionHypothesis (first ++ [letter]) (second ++ [letter])
    simp only [List.reverse_append, List.reverse_singleton, List.singleton_append,
      List.append_assoc] at behind
    rw [throughout_cons, ← behind, lowerFrom_cons, lowerFrom_cons, List.append_nil,
      List.append_nil, List.append_eq_append_iff_of_size_eq_left
        ((length_lowerAt ..).trans (length_lowerAt ..).symm)]
    refine and_congr_left fun _ => ?_
    by_cases sigma : letter = 'Σ'
    · rw [sigma, lowerAt_capitalSigma, lowerAt_capitalSigma, sigma_forms_eq_iff]
      exact ⟨fun same _ => same, fun same => same rfl⟩
    · rw [lowerAt_of_ne _ _ sigma, lowerAt_of_ne _ _ sigma]
      exact iff_of_true rfl fun equal => absurd equal sigma

/-! ### Letters that count alike -/

theorem meetsCased_cons (letter : Char) (rest : List Char) :
    meetsCased (letter :: rest) =
      if ignorableRanges.covers letter then meetsCased rest else casedRanges.covers letter := by
  rw [meetsCased, List.dropWhile_cons]
  cases ignorableRanges.covers letter <;> rfl

theorem CountAlike.meetsCased_cons {first second : Char} (alike : CountAlike first second)
    {rest others : List Char} (same : meetsCased rest = meetsCased others) :
    meetsCased (first :: rest) = meetsCased (second :: others) := by
  rw [Text.meetsCased_cons, Text.meetsCased_cons, alike.1, alike.2, same]

/-- The upper case of a sigma in any form. -/
theorem upperLetter_sigma {letter : Char} (sigma : IsSigma letter) :
    upperLetter letter = ['Σ'] ∧ CountAlike 'Σ' letter := by
  rcases sigma with rfl | rfl | rfl
  · exact ⟨by decide +kernel, rfl, rfl⟩
  · exact ⟨by decide +kernel, by decide +kernel⟩
  · exact ⟨by decide +kernel, by decide +kernel⟩

/-- Where all letters but final sigmas are steady, upper case does not change what is met first. -/
theorem meetsCased_flatMap_upperLetter {text : List Char}
    (steady : ∀ letter ∈ text, letter ≠ 'ς' → Steady letter) :
    meetsCased (text.flatMap upperLetter) = meetsCased text := by
  induction text with
  | nil => rfl
  | cons letter rest inductionHypothesis =>
    obtain ⟨here, behind⟩ := List.forall_mem_cons.mp steady
    have same := inductionHypothesis behind
    obtain ⟨upper, mapped, alike⟩ : ∃ upper, upperLetter letter = [upper] ∧
        CountAlike upper letter := by
      by_cases final : letter = 'ς'
      · exact ⟨'Σ', upperLetter_sigma (Or.inr (Or.inr final))⟩
      · exact (here final).exists_countAlike
    rw [List.flatMap_cons, mapped, List.singleton_append]
    exact alike.meetsCased_cons same

/-! ### Through upper case -/

/-- The number of letters of a lower case. -/
theorem length_lowerFrom (passed text : List Char) :
    (lowerFrom passed text).length = (text.flatMap lowerLetter).length := by
  induction text generalizing passed with
  | nil => rfl
  | cons letter rest inductionHypothesis =>
    rw [lowerFrom_cons, List.flatMap_cons, List.length_append, List.length_append,
      length_lowerAt, inductionHypothesis]

theorem length_lowerFrom_le (passed others text : List Char) :
    (lowerFrom others text).length ≤ (lowerFrom passed (text.flatMap upperLetter)).length := by
  rw [length_lowerFrom, length_lowerFrom]
  induction text with
  | nil => exact Nat.le_refl _
  | cons letter rest inductionHypothesis =>
    rw [List.flatMap_cons, List.flatMap_cons, List.flatMap_append, List.length_append,
      List.length_append]
    exact Nat.add_le_add (length_lowerLetter_le letter) inductionHypothesis

/-- Where neither part of the first text is shorter, the texts are equal only part by part. -/
theorem append_eq_append_iff_of_le {first second rest others : List Char}
    (parts : second.length ≤ first.length) (ends : others.length ≤ rest.length) :
    first ++ rest = second ++ others ↔ first = second ∧ rest = others := by
  refine ⟨fun whole => List.append_inj whole ?_, fun ⟨parts, ends⟩ => parts ▸ ends ▸ rfl⟩
  have lengths := congrArg List.length whole
  rw [List.length_append, List.length_append] at lengths
  omega

/-- Without a capital sigma the place of a text does not matter. -/
theorem lowerFrom_append_of_not_mem {text : List Char} (plain : 'Σ' ∉ text)
    (passed after : List Char) :
    lowerFrom passed (text ++ after) =
      text.flatMap lowerLetter ++ lowerFrom (text.reverse ++ passed) after := by
  induction text generalizing passed with
  | nil => rfl
  | cons letter rest inductionHypothesis =>
    rw [List.mem_cons, not_or] at plain
    obtain ⟨other, plainRest⟩ := plain
    rw [List.cons_append, lowerFrom_cons, lowerAt_of_ne _ _ (Ne.symm other),
      inductionHypothesis plainRest, List.flatMap_cons, List.append_assoc, List.reverse_cons,
      List.append_assoc]
    rfl

/-- A letter in its place has the lower case of its upper case: it is steady, and a small sigma has
the form that its place asks for. -/
structure Keeps (before : List Char) (letter : Char) (after : List Char) : Prop where
  steady : letter ≠ 'ς' → Steady letter
  small : letter = 'σ' → endsWord before after = false
  final : letter = 'ς' → endsWord before after = true

/-- A sigma keeps its lower case where a capital sigma would get the same one. -/
theorem keeps_iff_of_sigma {letter : Char} (sigma : IsSigma letter) (before after : List Char) :
    Keeps before letter after ↔
      lowerAt before.reverse 'Σ' after = lowerAt before.reverse letter after := by
  rcases sigma with rfl | rfl | rfl
  · have steady : Steady 'Σ' := by decide +kernel
    exact iff_of_true ⟨fun _ => steady, fun equal => absurd equal (by decide),
      fun equal => absurd equal (by decide)⟩ rfl
  · have steady : Steady 'σ' := by decide +kernel
    rw [lowerAt_capitalSigma, lowerAt_of_ne _ _ (by decide), lowerLetter_sigma.1]
    refine Iff.trans ?_ (sigma_forms_eq_iff (endsWord before after) false).symm
    exact ⟨fun keeps => keeps.small rfl, fun inside => ⟨fun _ => steady, fun _ => inside,
      fun equal => absurd equal (by decide)⟩⟩
  · rw [lowerAt_capitalSigma, lowerAt_of_ne _ _ (by decide), lowerLetter_sigma.2.1]
    refine Iff.trans ?_ (sigma_forms_eq_iff (endsWord before after) true).symm
    exact ⟨fun keeps => keeps.final rfl, fun ends => ⟨fun other => absurd rfl other,
      fun equal => absurd equal (by decide), fun _ => ends⟩⟩

theorem keeps_iff_of_not_sigma {letter : Char} (other : ¬ IsSigma letter)
    (before after : List Char) : Keeps before letter after ↔ Steady letter := by
  rw [IsSigma, not_or, not_or] at other
  obtain ⟨_, notSmall, notFinal⟩ := other
  exact ⟨fun keeps => keeps.steady notFinal, fun steady => ⟨fun _ => steady,
    fun equal => absurd equal notSmall, fun equal => absurd equal notFinal⟩⟩

/-- Upper case does not change what is met first in a text whose letters keep their lower case. -/
theorem meetsCased_of_throughout {context : List Char → List Char} {text : List Char}
    (keeps : Throughout (fun before => Keeps (context before)) text) :
    meetsCased (text.flatMap upperLetter) = meetsCased text := by
  refine meetsCased_flatMap_upperLetter fun letter member => ?_
  obtain ⟨before, after, split⟩ := List.append_of_mem member
  exact (keeps before letter after split).steady

/-- A text has the lower case of its upper case exactly if each of its letters has it in its
place. -/
theorem lowerFrom_flatMap_upperLetter_iff {passed : List Char} (front text : List Char)
    (alike : meetsCased passed = meetsCased front.reverse) :
    lowerFrom passed (text.flatMap upperLetter) = lowerFrom front.reverse text ↔
      Throughout (fun before => Keeps (front ++ before)) text := by
  induction text generalizing passed front with
  | nil => exact iff_of_true rfl (throughout_nil _)
  | cons letter rest inductionHypothesis =>
    have behind : ∀ {passed : List Char}, meetsCased passed = meetsCased (letter :: front.reverse) →
        (lowerFrom passed (rest.flatMap upperLetter) = lowerFrom (letter :: front.reverse) rest ↔
          Throughout (fun before => Keeps (front ++ letter :: before)) rest) := by
      intro passed alike
      have reversed : (front ++ [letter]).reverse = letter :: front.reverse := by
        rw [List.reverse_append, List.reverse_singleton, List.singleton_append]
      have step := inductionHypothesis (front ++ [letter]) (reversed ▸ alike)
      simp only [reversed, List.append_assoc, List.singleton_append] at step
      exact step
    rw [throughout_cons, List.append_nil, List.flatMap_cons, lowerFrom_cons front.reverse]
    by_cases sigma : IsSigma letter
    · obtain ⟨mapped, counts⟩ := upperLetter_sigma sigma
      have single : (lowerLetter letter).length = (lowerLetter 'Σ').length := by
        rcases sigma with rfl | rfl | rfl <;> decide +kernel
      rw [mapped, List.singleton_append, lowerFrom_cons,
        List.append_eq_append_iff_of_size_eq_left
          (by rw [length_lowerAt, length_lowerAt, single]),
        behind (counts.meetsCased_cons alike), keeps_iff_of_sigma sigma]
      -- What stands behind the sigma counts as before once its letters keep their lower case.
      refine and_congr_left fun keeps => ?_
      have same : lowerAt passed 'Σ' (rest.flatMap upperLetter) =
          lowerAt front.reverse 'Σ' rest := by
        rw [lowerAt, lowerAt, alike, meetsCased_of_throughout keeps]
      rw [same]
    · have plain : 'Σ' ∉ upperLetter letter := mt isSigma_of_capitalSigma_mem_upperLetter sigma
      have other : letter ≠ 'Σ' := fun capital => sigma (Or.inl capital)
      rw [lowerFrom_append_of_not_mem plain, lowerAt_of_ne _ _ other,
        append_eq_append_iff_of_le (length_lowerLetter_le letter) (length_lowerFrom_le ..),
        keeps_iff_of_not_sigma sigma]
      refine and_congr_right fun steady => ?_
      obtain ⟨upper, mapped, counts⟩ := Steady.exists_countAlike steady
      rw [mapped, List.reverse_singleton, List.singleton_append]
      exact behind (counts.meetsCased_cons alike)

end TreeSchema.Text
