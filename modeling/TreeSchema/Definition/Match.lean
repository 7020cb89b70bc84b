/-
This file compares the title and the data of a node with a definition. The
templates are read on the way, so a definition outside a schema may be compared
too; one whose template cannot be read is refused with the template's fault.
-/
import TreeSchema.Definition
import TreeSchema.Template.Reader
import TreeSchema.Template.Matcher

namespace TreeSchema.Definition

/-- Whether title and data match. The data template is read only if the title matches. -/
def matchesNode (definition : Definition) (title data : String) : Except Template.Fault Bool := do
  let titleTemplate ← Template.read definition.title
  if titleTemplate.matchesText title then
    let dataTemplate ← Template.read definition.data
    return dataTemplate.matchesText data
  else return false

/-- Why a node is rejected, given which of its two texts match; nothing if both do. -/
def rejection (definition : Definition) (title data : String) (titleMatches dataMatches : Bool) :
    Option String :=
  let titlePart := "title " ++ Text.quoted title ++ " !~ " ++ Text.quoted definition.title
  let dataPart := "data " ++ Text.quoted data ++ " !~ " ++ Text.quoted definition.data
  match titleMatches, dataMatches with
  | true, true => none
  | false, true => some titlePart
  | true, false => some dataPart
  | false, false => some (titlePart ++ "; " ++ dataPart)

/-- Why the title or the data does not match; nothing if both do. Both templates are read. -/
def mismatch (definition : Definition) (title data : String) :
    Except Template.Fault (Option String) := do
  let titleTemplate ← Template.read definition.title
  let dataTemplate ← Template.read definition.data
  return definition.rejection title data (titleTemplate.matchesText title)
    (dataTemplate.matchesText data)

end TreeSchema.Definition
