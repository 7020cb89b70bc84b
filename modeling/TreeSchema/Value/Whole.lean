/-
This file turns a declared value into a whole number. A truth value counts as
zero or one, a double loses its fraction, and a text is read; anything else, and
a double that stands for no number, is refused with its cause.
-/
import TreeSchema.Value
import TreeSchema.Number.Whole
import TreeSchema.Text.Quoted

namespace TreeSchema.Value

/-- Why a value gives no whole number. -/
inductive WholeFault where
  | notNumeral (numeral : String)
  | tooLong (digits : Nat)
  | notNumber
  | infinite
  | wrongKind (value : Value)
  deriving Repr, Inhabited

/-- The text of the fault. Long numerals are shown by their first two hundred characters. -/
def WholeFault.message : WholeFault → String
  | notNumeral numeral =>
    "invalid literal for int() with base 10: " ++
      String.ofList ((Text.quotedList numeral.toList).take 200)
  | tooLong digits => Whole.tooLongMessage (some digits)
  | notNumber => "cannot convert float NaN to integer"
  | infinite => "cannot convert float infinity to integer"
  | wrongKind value =>
    "int() argument must be a string, a bytes-like object or a real number, not '" ++
      value.kind ++ "'"

/-- The whole number that a value stands for. -/
def toWhole : Value → Except WholeFault Int
  | bool value => .ok (if value then 1 else 0)
  | integer value => .ok value
  | real (.finite negative mantissa exponent) => .ok (Double.truncate negative mantissa exponent)
  | real (.infinite _) => .error .infinite
  | real .notNumber => .error .notNumber
  | text value =>
    match Whole.ofText value with
    | .ok whole => .ok whole
    | .error .notNumeral => .error (.notNumeral value)
    | .error (.tooLong digits) => .error (.tooLong digits)
  | value => .error (.wrongKind value)

end TreeSchema.Value
