/-
This file holds the settings of a verification: whether rejected candidates and
bindings are traced, and after how many nodes to stop. Settings are declared as
values. A limit may be a number of any kind, and nothing keeps other values from being
declared as one; these are found out only when the first node is counted.
-/
import TreeSchema.Value.Display
import TreeSchema.Verification.Obstacle

namespace TreeSchema

/-- A limit on the number of nodes, as it is declared. A limit that is no number has the name of its
kind. -/
inductive Limit where
  | whole (value : Int)
  | truth (value : Bool)
  | real (negative : Bool) (mantissa : Nat) (exponent : Int)
  | belowAll
  | incomparable (kind : String)
  deriving DecidableEq, Repr, Inhabited

namespace Limit

/-- The greatest number of nodes within a limit. No node is within one that is no number. -/
def bound : Limit → Int
  | whole value => value
  | truth value => if value then 1 else 0
  | real negative mantissa exponent => Double.floor negative mantissa exponent
  | belowAll => -1
  | incomparable _ => -1

/-- The text that shows a limit where it is reached, or what breaks the verification off there. -/
def text : Limit → Except Obstacle String
  | whole value =>
    match Whole.text? value with
    | some digits => .ok digits
    | none => .error .unwritable
  | truth value => .ok (Value.bool value).display
  | real negative mantissa exponent => .ok (Double.finite negative mantissa exponent).text
  | belowAll => .ok (Double.infinite true).text
  | incomparable kind => .error (.incomparable kind)

/-- The text of a limit; nothing stands for one that cannot be shown. -/
def label (limit : Limit) : String :=
  limit.text.toOption.getD ""

/-- What breaks the verification off where the limit is reached. -/
def obstacle? (limit : Limit) : Option Obstacle :=
  match limit.text with
  | .ok _ => none
  | .error obstacle => some obstacle

end Limit

/-- Settings as the verification uses them. -/
structure Options where
  trace : Bool
  limit : Option Limit
  deriving DecidableEq, Repr, Inhabited

/-- Settings as they are declared. -/
structure Settings where
  trace : Value
  maxNodes : Value
  deriving Repr, Inhabited

namespace Settings

/-- The settings that hold where nothing is declared. -/
def standard : Settings :=
  ⟨.bool false, .null⟩

/-- Why a value declares no settings. -/
inductive FormFault where
  | notRecord (value : Value)
  | unknownKey (key : String)
  deriving Repr, Inhabited

/-- The settings that entries declare, on top of others. -/
def ofEntries (settings : Settings) : List (String × Value) → Except FormFault Settings
  | [] => .ok settings
  | (key, value) :: rest =>
    if key = "trace" then ofEntries { settings with trace := value } rest
    else if key = "max_nodes" then ofEntries { settings with maxNodes := value } rest
    else .error (.unknownKey key)

/-- The settings that a value declares; null stands for the standard ones. -/
def ofForm : Value → Except FormFault Settings
  | .null => .ok standard
  | .record entries => ofEntries standard entries
  | value => .error (.notRecord value)

/-- The declared form of settings. -/
def form (settings : Settings) : Value :=
  .record [("trace", settings.trace), ("max_nodes", settings.maxNodes)]

/-- Settings are declared again by their declared form. -/
theorem ofForm_form (settings : Settings) : ofForm settings.form = .ok settings := rfl

/-- The limit that a value stands for. A number that is above all others limits nothing, and neither
does a value that compares with every number but is less than none. -/
def limitOf : Value → Option Limit
  | .null => none
  | .bool value => some (.truth value)
  | .integer value => some (.whole value)
  | .real (.finite negative mantissa exponent) => some (.real negative mantissa exponent)
  | .real (.infinite true) => some .belowAll
  | .real (.infinite false) => none
  | .real .notNumber => none
  | value => some (.incomparable value.kind)

/-- The settings as the verification uses them. -/
def options (settings : Settings) : Options :=
  ⟨settings.trace.isGiven, limitOf settings.maxNodes⟩

end Settings

end TreeSchema
