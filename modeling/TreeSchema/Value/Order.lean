/-
This file compares values that are used as keys. Numbers of every kind, truth
values among them, compare by their exact value, and texts compare character by
character; values of different kinds have no order. The real value that is no number
is a key of its own, and it is neither less nor greater than any other.
-/
import TreeSchema.Sorting
import TreeSchema.Value

namespace TreeSchema.Value

/-- A number on the line extended by the two infinities, finite ones as a ratio. -/
inductive Measure where
  | below
  | ratio (numerator : Int) (denominator : Nat)
  | above
  deriving DecidableEq, Repr, Inhabited

/-- Whether the first number is less than the second. -/
def Measure.less : Measure → Measure → Bool
  | below, below => false
  | below, _ => true
  | ratio _ _, below => false
  | ratio first divisor, ratio second other => first * other < second * divisor
  | ratio _ _, above => true
  | above, _ => false

/-- Whether a value is a number, a truth value or no number at all included. -/
def isNumeric : Value → Bool
  | bool _ => true
  | integer _ => true
  | real _ => true
  | _ => false

/-- The number that a numeric value stands for, if any. -/
def measure? : Value → Option Measure
  | bool value => some (.ratio (if value then 1 else 0) 1)
  | integer value => some (.ratio value 1)
  | real (.finite negative mantissa exponent) =>
    let (numerator, denominator) := Double.magnitude mantissa exponent
    some (.ratio (if negative then -(numerator : Int) else numerator) denominator)
  | real (.infinite negative) => some (if negative then .below else .above)
  | _ => none

/-- Whether the first numeric value is less than the second. What is no number is never less. -/
def numberLess (first second : Value) : Bool :=
  match first.measure?, second.measure? with
  | some first, some second => first.less second
  | _, _ => false

/-- Whether two values are the same key. -/
def sameKey : Value → Value → Bool
  | null, null => true
  | text first, text second => first == second
  | real .notNumber, real .notNumber => true
  | first, second =>
    match first.measure?, second.measure? with
    | some left, some right => !left.less right && !right.less left
    | _, _ => false

/-- Whether a value can be a key. -/
def canBeKey : Value → Bool
  | list _ => false
  | record _ => false
  | _ => true

/-- The texts of values that are all texts. -/
def texts? (values : List Value) : Option (List String) :=
  values.mapM fun value => match value with
    | text characters => some characters
    | _ => none

/-- The values in ascending order, where they have one. -/
def sorted? (values : List Value) : Option (List Value) :=
  if values.length ≤ 1 then some values
  else
    match texts? values with
    | some texts => some ((Sorting.sort (fun first second => first < second) texts).map text)
    | none => if values.all isNumeric then some (Sorting.sort numberLess values) else none

end TreeSchema.Value
