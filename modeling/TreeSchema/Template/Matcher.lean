/-
This file decides which texts a template matches. The whole text must be used up.
A free field takes one or more characters and stops short of the characters that
may stand directly after it: the first character of a literal, the bracket of a
group, or, at the end of a group, whatever ends the body of that group. Before
another field, and at the end of the whole template, it may take any characters.
-/
import TreeSchema.Template
import TreeSchema.Shape

namespace TreeSchema.Template

/-- The characters at which a field stops that stands before this template, where the sequence
itself ends at one of the characters `closing`. -/
def stops (closing : List Char) : Template → List Char
  | done => closing
  | literal text _ => text.take 1
  | field _ _ => []
  | integer _ => []
  | group _ _ _ => ['[']

/-- The characters that end the body of a group. -/
def bodyClosing (repeated : Bool) : List Char :=
  if repeated then [']', ','] else [']']

/-- A run of one or more characters other than the stops. -/
def fieldShape (stops : List Char) : Shape :=
  Shape.atLeastOnce (.one (.outside stops))

/-- Digits with an optional minus sign. -/
def integerShape : Shape :=
  .sequence (Shape.optional (.one (.only '-'))) (Shape.atLeastOnce (.one .digit))

/-- One or more occurrences of a body with commas between them. -/
def repeatedShape (body : Shape) : Shape :=
  .sequence body (.many (.sequence (.one (.only ',')) body))

/-- The texts of a sequence that ends at one of the characters `closing`. -/
def shape (closing : List Char) : Template → Shape
  | done => .empty
  | literal text rest => .sequence (Shape.word text) (shape closing rest)
  | field _ rest => .sequence (fieldShape (stops closing rest)) (shape closing rest)
  | integer rest => .sequence integerShape (shape closing rest)
  | group repeated body rest =>
    let inner := shape (bodyClosing repeated) body
    .sequence
      (.sequence (.one (.only '['))
        (.sequence (if repeated then repeatedShape inner else inner) (.one (.only ']'))))
      (shape closing rest)

/-- Whether the template matches the whole text. -/
def matchesList (template : Template) (text : List Char) : Bool :=
  (template.shape []).accepts text

/-- Whether the template matches the whole text. -/
def matchesText (template : Template) (text : String) : Bool :=
  template.matchesList text.toList

end TreeSchema.Template
