/-
This file reads the written form of a template. `<name>` is a free field and
`<#>` an integer field; `[` and `]` enclose a group; a `$` before the opening
bracket, after it, or in both places makes the group repeated; every other
character stands for itself. A text that is no template is refused with the
reason and with the part of the text that starts where the fault is.
-/
import TreeSchema.Template
import TreeSchema.Text.Quoted

namespace TreeSchema.Template

/-- Why a text is no template. -/
inductive Reason where
  | unclosedField
  | emptyField
  | badFieldName (name : List Char)
  | emptyRepeatedGroup
  | strayBracket
  | strayAngle
  | unclosedGroup
  deriving DecidableEq, Repr, Inhabited

def Reason.message : Reason → String
  | unclosedField => "unclosed '<'"
  | emptyField => "empty placeholder '<>'"
  | badFieldName name => "invalid placeholder name " ++ Text.quoted (String.ofList name)
  | emptyRepeatedGroup => "empty repeated group"
  | strayBracket => "stray ']'"
  | strayAngle => "stray '>'"
  | unclosedGroup => "unclosed '['"

/-- Where reading stopped: the part of the text from the fault on. -/
structure Stop where
  reason : Reason
  rest : List Char
  deriving DecidableEq, Repr, Inhabited

/-- A character that no field name holds. -/
def isBarred (character : Char) : Bool :=
  character == '<' || character == '[' || character == ']'

/-- The name before the first `>` and the text after it. -/
def readName : List Char → Option (List Char × List Char)
  | [] => none
  | character :: rest =>
    if character = '>' then some ([], rest)
    else (readName rest).map fun (name, after) => (character :: name, after)

/-- The opening of a group: whether it is repeated, and the text of its body. -/
def readOpening : List Char → Option (Bool × List Char)
  | '[' :: '$' :: body => some (true, body)
  | '[' :: body => some (false, body)
  | '$' :: '[' :: '$' :: body => some (true, body)
  | '$' :: '[' :: body => some (true, body)
  | _ => none

/-- A field of the name given, before a template. -/
def consField (name : List Char) (rest : Template) : Template :=
  if name = integerName then integer rest else field name rest

theorem readName_length {text name rest : List Char} (read : readName text = some (name, rest)) :
    rest.length < text.length := by
  induction text generalizing name with
  | nil => simp [readName] at read
  | cons character text inductionHypothesis =>
    rw [readName] at read
    split at read
    · simp only [Option.some.injEq, Prod.mk.injEq] at read
      obtain ⟨_, rfl⟩ := read
      simp
    · obtain ⟨⟨inner, after⟩, found, same⟩ := Option.map_eq_some_iff.mp read
      simp only [Prod.mk.injEq] at same
      obtain ⟨_, rfl⟩ := same
      exact Nat.lt_succ_of_lt (inductionHypothesis found)

theorem readOpening_length {text body : List Char} {repeated : Bool}
    (read : readOpening text = some (repeated, body)) : body.length < text.length := by
  unfold readOpening at read
  split at read <;> simp only [Option.some.injEq, Prod.mk.injEq, reduceCtorEq] at read <;>
    obtain ⟨_, rfl⟩ := read <;> simp only [List.length_cons] <;> omega

/-- What was read from the start of a text, and the text after it, which is no longer. -/
structure Taken (text : List Char) where
  template : Template
  rest : List Char
  bounded : rest.length ≤ text.length

/-- The template at the start of a text. Inside a group it ends with the closing bracket, which is
used up; outside it ends with the text. -/
def readSequence (inside : Bool) (text : List Char) : Except Stop (Taken text) :=
  match text with
  | [] => if inside then .error ⟨.unclosedGroup, []⟩ else .ok ⟨done, [], Nat.le_refl _⟩
  | character :: after =>
    if character = '<' then
      match named : readName after with
      | none => .error ⟨.unclosedField, character :: after⟩
      | some (name, following) =>
        if name = [] then .error ⟨.emptyField, character :: after⟩
        else if name.any isBarred then .error ⟨.badFieldName name, character :: after⟩
        else
          match readSequence inside following with
          | .error stop => .error stop
          | .ok taken =>
            .ok ⟨consField name taken.template, taken.rest,
              Nat.le_trans taken.bounded
                (Nat.le_of_lt (Nat.lt_succ_of_lt (readName_length named)))⟩
    else if character = ']' then
      if inside then .ok ⟨done, after, Nat.le_succ _⟩
      else .error ⟨.strayBracket, character :: after⟩
    else if character = '>' then .error ⟨.strayAngle, character :: after⟩
    else
      match opened : readOpening (character :: after) with
      | some (repeated, inner) =>
        match readSequence true inner with
        | .error stop => .error stop
        | .ok body =>
          if repeated ∧ body.template = done then
            .error ⟨.emptyRepeatedGroup, character :: after⟩
          else
            match readSequence inside body.rest with
            | .error stop => .error stop
            | .ok taken =>
              .ok ⟨group repeated body.template taken.template, taken.rest,
                Nat.le_trans taken.bounded
                  (Nat.le_trans body.bounded (Nat.le_of_lt (readOpening_length opened)))⟩
      | none =>
        match readSequence inside after with
        | .error stop => .error stop
        | .ok taken =>
          .ok ⟨consCharacter character taken.template, taken.rest,
            Nat.le_succ_of_le taken.bounded⟩
termination_by text.length
decreasing_by
  · exact Nat.lt_succ_of_lt (readName_length named)
  · exact readOpening_length opened
  · exact Nat.lt_of_le_of_lt body.bounded (readOpening_length opened)
  · exact Nat.lt_succ_self _

/-- A refused text, with the reason and the number of characters before the fault. -/
structure Fault where
  template : String
  position : Nat
  reason : Reason
  deriving DecidableEq, Repr, Inhabited

def Fault.message (fault : Fault) : String :=
  s!"{fault.reason.message} at position {fault.position} in template {Text.quoted fault.template}"

/-- The template that a whole text is the written form of. -/
def readList (text : List Char) : Except Stop Template :=
  match readSequence false text with
  | .error stop => .error stop
  | .ok taken => .ok taken.template

/-- The template that a whole text is the written form of. -/
def read (text : String) : Except Fault Template :=
  match readList text.toList with
  | .error stop => .error ⟨text, text.toList.length - stop.rest.length, stop.reason⟩
  | .ok template => .ok template

end TreeSchema.Template
