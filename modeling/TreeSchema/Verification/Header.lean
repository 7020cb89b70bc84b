/-
This file checks the header of a file. Its title must be the tag of the format, and
its data must name the version: by the label of the schema, or by its ordinal. A
header that names another version of the format is reported as such. An ordinal is
written for this, to be compared with the data and to be shown in the report, and the
check breaks off where it has too many digits.
-/
import TreeSchema.Catalog
import TreeSchema.Diagnostic
import TreeSchema.Document
import TreeSchema.Text.Blank
import TreeSchema.Verification.Obstacle

namespace TreeSchema

namespace Catalog

/-- The schema that the data of a header names, by label or by ordinal. -/
def declared? (catalog : Catalog) (data : String) : Option Schema :=
  let text := Text.strip data
  match catalog.find? text with
  | some schema => some schema
  | none => (Whole.ofText? text).bind catalog.findOrdinal?

end Catalog

namespace Header

/-- The path of the entries about a header. -/
def path : String := "/header"

/-- An entry about the header, which stands at the place given, if there is one. -/
def mismatch (place : Option Nat) (message : String) : Diagnostic :=
  ⟨.error, .headerMismatch, message, path, place⟩

/-- Whether the data of a header names the schema itself. No data names it by an ordinal that cannot
be written. -/
def namesSchema (schema : Schema) (data : String) : Bool :=
  data == schema.label || Whole.text? schema.ordinal == some (Text.strip data)

/-- What is said of data that does not name the schema. -/
def versionMessage (catalog : Catalog) (schema : Schema) (data : String) : String :=
  let unrecognised :=
    "unrecognised version " ++ Text.quoted data ++ ", expected " ++ Text.quoted schema.label
  match catalog.declared? data with
  | none => unrecognised
  | some other =>
    if other.ordinal = schema.ordinal then unrecognised
    else
      "file declares " ++ Text.quoted other.label ++ " (ordinal " ++ Whole.written other.ordinal ++
        "), " ++ (if other.ordinal < schema.ordinal then "older" else "newer") ++ " than " ++
        Text.quoted schema.label ++ " (ordinal " ++ Whole.written schema.ordinal ++ ")"

/-- The entries about the title, none where it is the tag of the format. -/
def titleEntries (catalog : Catalog) (place : Nat) (node : Node) : List Diagnostic :=
  if node.title = catalog.tag then []
  else
    [mismatch (some place)
      ("format tag is " ++ Text.quoted node.title ++ ", expected " ++ Text.quoted catalog.tag)]

/-- Whether the header is the right one, and the entries that say so. -/
def check (trace : Bool) (catalog : Catalog) (schema : Schema) :
    Option (Nat × Node) → Bool × List Diagnostic
  | none => (false, [mismatch none "file has no header node"])
  | some (place, node) =>
    let titles := titleEntries catalog place node
    if namesSchema schema node.data then
      let confirmation : Diagnostic :=
        ⟨.debug, .nodeMatched, "header ok: " ++ node.title ++ " " ++ schema.label, path,
          some place⟩
      (titles.isEmpty, titles ++ if titles.isEmpty && trace then [confirmation] else [])
    else
      (false, titles ++ [mismatch (some place) (versionMessage catalog schema node.data)])

/-- What keeps from saying that data names another schema: the ordinal of this one. -/
def otherObstacle? (catalog : Catalog) (schema : Schema) (data : String) : Option Obstacle :=
  match catalog.declared? data with
  | none => none
  | some other =>
    if other.ordinal = schema.ordinal ∨ Whole.IsShort other.ordinal then none
    else some .unwritable

/-- What breaks the check off. The ordinal of the schema is written unless the data is its label,
and the one of another schema if the data names that schema instead. -/
def obstacle? (catalog : Catalog) (schema : Schema) : Option (Nat × Node) → Option Obstacle
  | none => none
  | some (_, node) =>
    if node.data = schema.label then none
    else if ¬ Whole.IsShort schema.ordinal then some .unwritable
    else if namesSchema schema node.data then none
    else otherObstacle? catalog schema node.data

end Header

end TreeSchema
