/-
This file reads the paths of entries. A path names the bound nodes above a place, the
outermost first, each with its index among its siblings, and ends with the index of the
place itself. The indices tell which links lead there from the header, which stands at
index zero of the outermost siblings: as many next siblings as the first index says, then
the first child and as many next siblings as the second index says, and so on. A path is a
text, but nothing is lost in it as long as no name holds a slash: the last hash sign
stands before the last index, the last opening bracket before the last but one, and the
last slash before the name that belongs to it, so that the path can be read from its end.
-/
import TreeSchema.Proofs.Consistency
import TreeSchema.Proofs.Tree
import TreeSchema.Verification.Slot

namespace TreeSchema

/-- A way from the header: the bound nodes on it, the nearest first, each with its index among its
siblings, and the index of the place it leads to. -/
structure Way where
  steps : List (String × Nat)
  index : Nat
  deriving DecidableEq, Repr

/-- The way to a slot. -/
def Slot.way (slot : Slot) : Way :=
  ⟨slot.steps, slot.index⟩

namespace Way

/-- A way in the path of an entry. -/
def text (way : Way) : String :=
  Slot.stepsText way.steps ++ "/#" ++ toString way.index

/-- The links to follow from the header, with the index at the end of the way. -/
def chainTo : List (String × Nat) → Nat → List Link
  | [], index => List.replicate index .next
  | step :: above, index => chainTo above step.2 ++ .child :: List.replicate index .next

/-- The links to follow from the header. -/
def chain (way : Way) : List Link :=
  chainTo way.steps way.index

/-- The names on the way are names of definitions. -/
def Named (way : Way) : Prop :=
  ∀ step ∈ way.steps, Schema.isName step.1 = true

/-! ### The links of a way -/

theorem chainTo_succ (steps : List (String × Nat)) (index : Nat) :
    chainTo steps (index + 1) = chainTo steps index ++ [.next] := by
  cases steps with
  | nil => exact List.replicate_succ'
  | cons step above =>
    rw [chainTo, chainTo, List.replicate_succ', List.append_assoc, List.cons_append]

/-- The first child is one link further than its parent. -/
theorem chain_childSlot (slot : Slot) (definition : Definition) (node : Node) :
    (slot.childSlot definition node).way.chain = slot.way.chain ++ [.child] := rfl

/-- The next sibling is one link further than the node before it. -/
theorem chain_nextSlot (slot : Slot) (definition : Definition) (node : Node) :
    (slot.nextSlot definition node).way.chain = slot.way.chain ++ [.next] :=
  chainTo_succ slot.steps slot.index

/-! ### The text of a way -/

/-- A text is split in one way only at the last separator. -/
theorem eq_of_append_cons_eq {separator : Char} {before after first second : List Char}
    (last : separator ∉ after) (otherLast : separator ∉ second)
    (same : before ++ separator :: after = first ++ separator :: second) :
    before = first ∧ after = second := by
  rcases List.append_eq_append_iff.mp same with ⟨between, rfl, rest⟩ | ⟨between, rfl, rest⟩
  · cases between with
    | nil => exact ⟨(List.append_nil _).symm, List.tail_eq_of_cons_eq rest⟩
    | cons head between =>
      rw [List.tail_eq_of_cons_eq rest] at last
      exact absurd (List.mem_append_right _ List.mem_cons_self) last
  · cases between with
    | nil => exact ⟨List.append_nil _, (List.tail_eq_of_cons_eq rest).symm⟩
    | cons head between =>
      rw [List.tail_eq_of_cons_eq rest] at otherLast
      exact absurd (List.mem_append_right _ List.mem_cons_self) otherLast

theorem toDigits_injective {first second : Nat}
    (same : Nat.toDigits 10 first = Nat.toDigits 10 second) : first = second := by
  rw [← @Nat.ofDigitChars_ten_toDigits first, same, Nat.ofDigitChars_ten_toDigits]

theorem not_mem_toDigits {character : Char} (other : character.isDigit = false) (index : Nat) :
    character ∉ Nat.toDigits 10 index := by
  intro member
  have digit := Nat.isDigit_of_mem_toDigits (by decide) (by decide) member
  rw [other] at digit
  cases digit

theorem toList_stepText (step : String × Nat) :
    (Slot.stepText step).toList =
      '/' :: step.1.toList ++ '[' :: (Nat.toDigits 10 step.2 ++ [']']) := by
  simp [Slot.stepText]

theorem toList_text (way : Way) :
    way.text.toList =
      (Slot.stepsText way.steps).toList ++ ['/'] ++ '#' :: Nat.toDigits 10 way.index := by
  simp [text]

/-- No name of a definition holds a slash. -/
theorem slash_not_mem_of_isName {name : String} (named : Schema.isName name = true) :
    '/' ∉ name.toList := by
  have rest : ∀ characters, Schema.isNameRest characters = true → '/' ∉ characters := by
    intro characters
    induction characters using Schema.isNameRest.induct with
    | case1 => exact fun _ => List.not_mem_nil
    | case2 => exact fun _ => by decide
    | case3 character characters notLast inductionHypothesis =>
      intro tolerated
      rw [Schema.isNameRest, Bool.and_eq_true] at tolerated
      · rw [List.mem_cons, not_or]
        refine ⟨?_, inductionHypothesis tolerated.2⟩
        rintro rfl
        exact absurd tolerated.1 (by decide)
      · exact notLast
  unfold Schema.isName at named
  split at named
  · cases named
  next first characters split =>
    rw [Bool.and_eq_true] at named
    rw [split, List.mem_cons, not_or]
    refine ⟨?_, rest characters named.2⟩
    rintro rfl
    exact absurd named.1 (by decide)

/-- One step is read from the end of a path. -/
theorem eq_of_append_stepText_eq {before first : List Char} {step other : String × Nat}
    (named : Schema.isName step.1 = true) (otherNamed : Schema.isName other.1 = true)
    (same : before ++ (Slot.stepText step).toList = first ++ (Slot.stepText other).toList) :
    before = first ∧ step = other := by
  have bracket (index : Nat) : '[' ∉ Nat.toDigits 10 index ++ [']'] := by
    rw [List.mem_append, not_or]
    exact ⟨not_mem_toDigits (by decide) index, by decide⟩
  rw [toList_stepText, toList_stepText, ← List.append_assoc, ← List.append_assoc] at same
  obtain ⟨names, digits⟩ := eq_of_append_cons_eq (bracket _) (bracket _) same
  obtain ⟨rfl, name⟩ := eq_of_append_cons_eq (slash_not_mem_of_isName named)
    (slash_not_mem_of_isName otherNamed) names
  exact ⟨rfl, Prod.ext (String.toList_inj.mp name)
    (toDigits_injective (List.append_cancel_right digits))⟩

theorem stepsText_injective {steps others : List (String × Nat)}
    (named : ∀ step ∈ steps, Schema.isName step.1 = true)
    (otherNamed : ∀ step ∈ others, Schema.isName step.1 = true)
    (same : (Slot.stepsText steps).toList = (Slot.stepsText others).toList) : steps = others := by
  induction steps generalizing others with
  | nil =>
    cases others with
    | nil => rfl
    | cons other below =>
      simp [Slot.stepsText, toList_stepText] at same
  | cons step above inductionHypothesis =>
    cases others with
    | nil => simp [Slot.stepsText, toList_stepText] at same
    | cons other below =>
      rw [List.forall_mem_cons] at named otherNamed
      rw [Slot.stepsText, Slot.stepsText, String.toList_append, String.toList_append] at same
      obtain ⟨texts, rfl⟩ := eq_of_append_stepText_eq named.1 otherNamed.1 same
      rw [inductionHypothesis named.2 otherNamed.2 texts]

/-- Ways over names of definitions are told apart by their texts. -/
theorem text_injective {way other : Way} (named : way.Named) (otherNamed : other.Named)
    (same : way.text = other.text) : way = other := by
  have hash (index : Nat) : '#' ∉ Nat.toDigits 10 index := not_mem_toDigits (by decide) index
  have lists := congrArg String.toList same
  rw [toList_text, toList_text] at lists
  obtain ⟨steps, index⟩ := eq_of_append_cons_eq (hash _) (hash _) lists
  obtain ⟨above, index⟩ := way
  obtain ⟨below, other⟩ := other
  cases stepsText_injective named otherNamed (List.append_cancel_right steps)
  cases toDigits_injective index
  rfl

end Way

end TreeSchema
