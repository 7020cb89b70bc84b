/-
This file builds a document from an outline by making nodes and linking them. For each record
a node without links is made, then the outline of its children is built, whose nodes are linked
below it, and only then comes the next record. The nodes of one outline are linked to each
other once all of them are there, each to the one before it and to the parent.
-/
import TreeSchema.Document.Outline

namespace TreeSchema.Document

/-- The document with a node for each record, everything below the nodes being linked, and the
places of the nodes. -/
def addRecords (document : Document) (level : Int) : Outline → Document × List Nat
  | .done => (document, [])
  | .entry title data children rest =>
    let place := document.size
    let made := document.push (.alone title data level)
    let attached :=
      if children = .done then made
      else
        let below := made.addRecords (level + 1) children
        below.1.linkSiblings below.2 (some place)
    let records := attached.addRecords level rest
    (records.1, place :: records.2)

/-- The document with an outline built after its nodes, below a parent if one is given, and the
place of the first record. -/
def buildOutline (document : Document) (outline : Outline) (level : Int) (parent : Option Nat) :
    Document × Option Nat :=
  let records := document.addRecords level outline
  (records.1.linkSiblings records.2 parent, records.2.head?)

end TreeSchema.Document
