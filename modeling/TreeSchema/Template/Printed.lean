/-
This file writes a template out in one way, and says of which templates this gives a written
form. A repeated group is marked after its bracket, so that its body may start with any
literal. Directly after a literal it is marked before its bracket too, since a literal that
ends in `$` would mark the bracket otherwise. A group that is not repeated has no such way out:
nothing can be written between its bracket and a `$` on either side of it.
-/
import TreeSchema.Template.Written

namespace TreeSchema.Template

/-- The text of a template, given whether it stands directly after a literal. -/
def printed (afterLiteral : Bool) : Template → List Char
  | done => []
  | literal text rest => text ++ printed true rest
  | field name rest => '<' :: (name ++ '>' :: printed false rest)
  | integer rest => '<' :: (integerName ++ '>' :: printed false rest)
  | group repeated body rest =>
    (if repeated then if afterLiteral then ['$', '[', '$'] else ['[', '$'] else ['[']) ++
      (printed false body ++ ']' :: printed false rest)

/-- Whether the first element is a group that is not repeated. -/
def startsWithPlainGroup : Template → Bool
  | group repeated _ _ => !repeated
  | _ => false

/-- Whether the first element is a literal that starts with a `$`. -/
def startsWithDollar : Template → Bool
  | literal text _ => text.head? == some '$'
  | _ => false

/-- At every depth, no group that is not repeated stands directly after a literal that ends in `$`,
and none has a literal that starts with `$` as its first element. -/
def DollarsApart : Template → Prop
  | done => True
  | literal text rest =>
    (text.getLast? = some '$' → rest.startsWithPlainGroup = false) ∧ rest.DollarsApart
  | field _ rest => rest.DollarsApart
  | integer rest => rest.DollarsApart
  | group repeated body rest =>
    (repeated = false → body.startsWithDollar = false) ∧ body.DollarsApart ∧ rest.DollarsApart

end TreeSchema.Template
