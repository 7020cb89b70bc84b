/-
This file holds the catalogs that are built in, and finds them by their tag, case
aside. There is one format: a header, then one node with a title of its own, then
below it one or more nodes whose data is the name of an image file and a bracketed
list of integers in groups of four.
-/
import TreeSchema.Catalog

namespace TreeSchema.Catalog

/-- The node that the file starts with after its header. -/
def ghdrHead : Definition where
  name := "head"
  title := "<fileTitle>"
  data := ""
  level := 0
  parents := .ofList []
  previousSiblings := .ofList [.head]
  nextSiblings := .ofList []
  children := .ofList [.named "title"]

/-- A node that places an image. -/
def ghdrTitle : Definition where
  name := "title"
  title := "<text>"
  data := "<imagefile>[$<#>,<#>,<#>,<#>]"
  level := 1
  parents := .ofList [.named "head", .absent]
  previousSiblings := .ofList [.named "title", .absent]
  nextSiblings := .ofList [.named "title", .absent]
  children := .ofList []

/-- The first version of the format. -/
def ghdrVersion1 : Schema where
  label := "Version 1.0"
  ordinal := 1
  fileExtension := ".ghdr"
  definitions := [ghdrHead, ghdrTitle]
  consistent := by decide +kernel

/-- The catalog of the format. -/
def ghdr : Catalog where
  tag := "GHDR"
  schemas := [ghdrVersion1]
  consistent := by decide +kernel

/-- The catalogs that are built in. -/
def builtIn : List Catalog :=
  [ghdr]

/-- The tags of the catalogs that are built in, in alphabetical order. -/
def builtInTags : List String :=
  (builtIn.map Catalog.tag).mergeSort

/-- What is said of a tag that no catalog has. -/
def unknownTag (tag : String) : String :=
  "unknown file format " ++ Text.quoted tag ++ " (available: " ++
    ", ".intercalate builtInTags ++ ")"

/-- The catalog that is built in under a tag, case aside. -/
def builtIn? (tag : String) : Option Catalog :=
  builtIn.find? fun catalog => catalog.tag == Text.upper tag

end TreeSchema.Catalog
