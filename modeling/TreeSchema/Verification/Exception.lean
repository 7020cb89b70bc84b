/-
This file holds what a step may raise that is not modelled further, such as a loader that reads
a file. Callers tell ordinary exceptions from others: they handle the former and let the latter
pass. An exception is shown by a text that it makes itself, and this may fail as well.
-/
import TreeSchema.Verification.Obstacle

namespace TreeSchema

/-- Something that is raised: the name of its kind, whether it is ordinary, and the text that shows
it, or what is raised instead of this text. -/
inductive Exception where
  | shown (kind : String) (ordinary : Bool) (text : String)
  | unshown (kind : String) (ordinary : Bool) (instead : Exception)
  deriving DecidableEq, Repr

namespace Exception

/-- The name of the kind of an exception. -/
def kind : Exception → String
  | shown kind _ _ => kind
  | unshown kind _ _ => kind

/-- Whether callers handle an exception. -/
def isOrdinary : Exception → Bool
  | shown _ ordinary _ => ordinary
  | unshown _ ordinary _ => ordinary

/-- The text that shows an exception. -/
def text : Exception → Except Exception String
  | shown _ _ text => .ok text
  | unshown _ _ instead => .error instead

/-- An obstacle as it is raised. -/
def ofObstacle (obstacle : Obstacle) : Exception :=
  shown obstacle.kind true obstacle.message

end Exception

end TreeSchema
