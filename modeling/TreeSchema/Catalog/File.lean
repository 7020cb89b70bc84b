/-
This file reads catalogs from files and writes them. A file holds the declared form
of a catalog as JSON text, in UTF-8. Line ends of every kind count as one line break.
-/
import TreeSchema.Catalog.Form
import TreeSchema.Json.Reader
import TreeSchema.Json.Writer

namespace TreeSchema.Catalog

/-- Why a file gives no catalog. -/
inductive FileFault where
  | missing
  | notUnicode
  | notJson (fileName : String) (fault : Json.Fault)
  | badForm (fault : FormFault)
  deriving Repr, Inhabited

def FileFault.message : FileFault → String
  | missing => "the catalog file does not exist"
  | notUnicode => "the catalog file is no UTF-8 text"
  | notJson fileName fault => fileName ++ ": invalid JSON (" ++ fault.message ++ ")"
  | badForm fault => fault.message

/-- The text with one line break for each line end. -/
def unifyLineEnds : List Char → List Char
  | [] => []
  | '\r' :: '\n' :: rest => '\n' :: unifyLineEnds rest
  | '\r' :: rest => '\n' :: unifyLineEnds rest
  | character :: rest => character :: unifyLineEnds rest

/-- The catalog that the text of a file declares. -/
def ofText (fileName text : String) : Except FileFault Catalog :=
  match Json.readList (unifyLineEnds text.toList) with
  | .error fault => .error (.notJson fileName fault)
  | .ok value => (ofForm value).mapError .badForm

/-- The catalog that a file declares, where `none` stands for a file that is not there. -/
def ofFile (fileName : String) (contents : Option ByteArray) : Except FileFault Catalog :=
  match contents with
  | none => .error .missing
  | some bytes =>
    match String.fromUTF8? bytes with
    | none => .error .notUnicode
    | some text => ofText fileName text

/-- The text of the file of a catalog. -/
def fileText (catalog : Catalog) : String :=
  String.ofList (Json.writeValue 0 catalog.form ++ ['\n'])

end TreeSchema.Catalog
