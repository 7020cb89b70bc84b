/-
This file says which texts are written forms of a template, without reference to the
reader. A literal is written as it stands, a field as its name in angle brackets, and a
group as its body in brackets, with a `$` before the opening bracket, after it or in
both places if the group is repeated. As a `$` may also be part of a literal, two
conditions keep the written forms apart: a literal that ends in `$` does not stand
directly before a bracket, and a body that is opened without a `$` after the bracket
does not start with one.
-/
import TreeSchema.Template

namespace TreeSchema.Template

/-! ### Templates that have a written form -/

/-- A character that neither literals nor field names hold. -/
def isReserved (character : Char) : Bool :=
  character == '<' || character == '>' || character == '[' || character == ']'

/-- Whether the first element is a literal. -/
def startsWithLiteral : Template → Bool
  | literal _ _ => true
  | _ => false

/-- Literals and names are not empty and hold no reserved characters, no literal stands directly
after another one, no free field has the name of the integer fields, and no repeated group is
empty. -/
def WellFormed : Template → Prop
  | done => True
  | literal text rest =>
    text ≠ [] ∧ (∀ character ∈ text, isReserved character = false) ∧
      rest.startsWithLiteral = false ∧ rest.WellFormed
  | field name rest =>
    name ≠ [] ∧ (∀ character ∈ name, isReserved character = false) ∧ name ≠ integerName ∧
      rest.WellFormed
  | integer rest => rest.WellFormed
  | group repeated body rest => (repeated = true → body ≠ done) ∧ body.WellFormed ∧ rest.WellFormed

/-! ### Written forms -/

/-- The ways to open a group: a bracket alone, after a `$`, before one, or between two. -/
inductive Opening where
  | plain
  | outer
  | inner
  | both
  deriving DecidableEq, Repr

namespace Opening

def text : Opening → List Char
  | plain => ['[']
  | outer => ['$', '[']
  | inner => ['[', '$']
  | both => ['$', '[', '$']

/-- Whether the group is repeated. -/
def repeated : Opening → Bool
  | plain => false
  | _ => true

/-- Whether the bracket stands before a `$`. -/
def marksBody : Opening → Bool
  | inner | both => true
  | _ => false

end Opening

/-- The text is a written form of the template. -/
inductive Written : Template → List Char → Prop where
  | done : Written done []
  | literal {text more : List Char} {rest : Template}
      (apart : text.getLast? = some '$' → more.head? ≠ some '[') (tail : Written rest more) :
      Written (literal text rest) (text ++ more)
  | field {name more : List Char} {rest : Template} (tail : Written rest more) :
      Written (field name rest) ('<' :: (name ++ '>' :: more))
  | integer {more : List Char} {rest : Template} (tail : Written rest more) :
      Written (integer rest) ('<' :: (integerName ++ '>' :: more))
  | group {inside more : List Char} {body rest : Template} (opening : Opening)
      (apart : opening.marksBody = false → inside.head? ≠ some '$') (inner : Written body inside)
      (tail : Written rest more) :
      Written (group opening.repeated body rest) (opening.text ++ (inside ++ ']' :: more))

end TreeSchema.Template
