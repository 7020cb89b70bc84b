/-
This file reads a value as a mapping. A record is one already; any other value
with members is read as a sequence of pairs, each of them a value with two
members, and a later pair replaces an earlier one with the same key.
-/
import TreeSchema.Value.Order

namespace TreeSchema.Value

/-- Why a value is no mapping. -/
inductive MappingFault where
  | noMembers
  | memberWithoutMembers (index : Nat)
  | memberLength (index length : Nat)
  | keyRefused (index : Nat)
  deriving DecidableEq, Repr, Inhabited

def MappingFault.message : MappingFault → String
  | noMembers => "definition is no mapping"
  | memberWithoutMembers index =>
    s!"cannot convert dictionary update sequence element #{index} to a sequence"
  | memberLength index length =>
    s!"dictionary update sequence element #{index} has length {length}; 2 is required"
  | keyRefused index => s!"the key of element #{index} cannot be a key"

/-- Entries whose keys are values. -/
abbrev Mapping := List (Value × Value)

namespace Mapping

/-- The entries with one of them set; a key keeps its first place and its first form. -/
def insert (key value : Value) : Mapping → Mapping
  | [] => [(key, value)]
  | entry :: rest =>
    if entry.1.sameKey key then (entry.1, value) :: rest else entry :: insert key value rest

/-- The entry under a text key, and the other entries. -/
def take (key : String) (mapping : Mapping) : Option Value × Mapping :=
  let isHere (entry : Value × Value) : Bool := entry.1.sameKey (text key)
  ((mapping.find? isHere).map Prod.snd, mapping.filter fun entry => !isHere entry)

/-- The pairs read so far, completed with the members from one index on. -/
def ofMembers (mapping : Mapping) (index : Nat) : List Value → Except MappingFault Mapping
  | [] => .ok mapping
  | member :: rest =>
    match member.members? with
    | none => .error (.memberWithoutMembers index)
    | some [key, value] =>
      if key.canBeKey then ofMembers (mapping.insert key value) (index + 1) rest
      else .error (.keyRefused index)
    | some members => .error (.memberLength index members.length)

/-- The mapping that a value declares. -/
def ofValue : Value → Except MappingFault Mapping
  | record entries => .ok (entries.map fun entry => (text entry.1, entry.2))
  | value =>
    match value.members? with
    | some members => ofMembers [] 0 members
    | none => .error .noMembers

end Mapping

end TreeSchema.Value
