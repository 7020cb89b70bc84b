/-
This file says what breaks a verification off. Its failures leave entries and no more, but an
entry may have to show a whole number, and a header may have to be compared with one: this takes
the text of the number, which there is none of where it has too many digits. And the nodes that
were counted can be compared with a limit only if the limit is a number.
-/
import TreeSchema.Number.Whole

namespace TreeSchema

/-- What breaks a verification off: a whole number that cannot be written, or a limit of a kind that
is not compared with numbers. -/
inductive Obstacle where
  | unwritable
  | incomparable (kind : String)
  deriving DecidableEq, Repr, Inhabited

namespace Obstacle

/-- The kind of error that an obstacle is. -/
def kind : Obstacle → String
  | unwritable => "ValueError"
  | incomparable _ => "TypeError"

def message : Obstacle → String
  | unwritable => Whole.tooLongMessage none
  | incomparable kind => "'>' not supported between instances of 'int' and '" ++ kind ++ "'"

end Obstacle

end TreeSchema
