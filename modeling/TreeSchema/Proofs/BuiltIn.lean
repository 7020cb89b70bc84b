/-
This file says exactly which files conform to the format that is built in. What the
walk asks of them comes from a few facts about any schema: a position for one
definition only, and a row of siblings that one definition describes. What the
templates ask is that the data of an image holds integers whose number is a multiple
of four. A file of the format is laid out as one node with a row below it, so it is a
tree whatever the unused links of the document are, and its nodes are all counted.
-/
import TreeSchema.Catalog.BuiltIn
import TreeSchema.Proofs.Conformance
import TreeSchema.Proofs.Elements
import TreeSchema.Proofs.Siblings
import TreeSchema.Proofs.Trail

namespace TreeSchema

/-! ### What any schema makes of headers and of rows -/

/-- A header is right if its title is the tag, and its data the label or the text of the ordinal. -/
theorem Header.check_eq_true_iff {trace : Bool} {catalog : Catalog} {schema : Schema}
    {header : Option (Nat × Node)} :
    (Header.check trace catalog schema header).1 = true ↔
      ∃ entry, header = some entry ∧ entry.2.title = catalog.tag ∧
        (entry.2.data = schema.label ∨
          Whole.text? schema.ordinal = some (Text.strip entry.2.data)) := by
  cases header with
  | none => simp [check]
  | some found =>
    have checked : (check trace catalog schema (some found)).1 =
        (namesSchema schema found.2.data && (titleEntries catalog found.1 found.2).isEmpty) := by
      unfold check
      dsimp only
      cases namesSchema schema found.2.data <;> rfl
    have titled : (titleEntries catalog found.1 found.2).isEmpty = true ↔
        found.2.title = catalog.tag := by
      unfold titleEntries
      split
      next same => exact iff_of_true rfl same
      next different => exact iff_of_false Bool.false_ne_true different
    rw [checked, Bool.and_eq_true, titled, namesSchema, Bool.or_eq_true, beq_iff_eq, beq_iff_eq,
      and_comm]
    simp only [Option.some.injEq, exists_eq_left']

/-- A report on nodes that conform counts all of them. -/
theorem counted_of_nodesOk {trace : Bool} {catalog : Catalog} {schema : Schema}
    {document : Document} {root : Option Nat} {filePath : String} {tree : NodeTree}
    (unfolds : document.Unfolds (document.afterHeader root) tree) (nodup : tree.places.Nodup)
    (nodesOk : (verify ⟨trace, none⟩ catalog schema document root filePath).nodesOk = true) :
    (verify ⟨trace, none⟩ catalog schema document root filePath).counted =
      tree.places.length := by
  let slot := Verification.firstSlot schema (document.afterHeader root)
  have visited : Verification.visits ⟨trace, none⟩ schema document root =
      (schema.walk document none).visitTree slot tree := by
    rw [Verification.visits]
    exact Walk.visits_eq_visitTree rfl unfolds nodup
  rw [nodesOk_verify, visited] at nodesOk
  rw [counted_verify, visited]
  exact Walk.countNodes_visitTree slot nodesOk

namespace Schema

variable {schema : Schema} {document : Document} {link : Option Nat}

/-- Where only absence is allowed, nothing conforms but absence. -/
theorem conforms_absent_iff :
    schema.Conforms document link [.absent] ↔ document.follow link = none := by
  have unbound (node : Node) (definition : Definition) :
      ¬ schema.Binds [.absent] node definition := by
    intro binds
    refine not_binds_nil ((binds_cons_of_refuses fun name other same => ?_).mp binds)
    cases same
  rw [conforms_iff]
  constructor
  · intro either
    rcases either with absent | ⟨_, node, definition, _, binds, _⟩
    · exact absent.1
    · exact absurd binds (unbound node definition)
  · intro nowhere
    exact Or.inl ⟨nowhere, List.mem_cons_self⟩

/-- Where one definition is the only candidate, its nodes conform, and absence where it is
allowed. -/
theorem conforms_only_iff {name : String} {candidates : List Reference} {definition : Definition}
    (found : schema.find? name = some definition)
    (only : ∀ other, .named other ∈ candidates → other = name) :
    schema.Conforms document link (.named name :: candidates) ↔
      (document.follow link = none ∧ .absent ∈ candidates) ∨
      ∃ entry, document.follow link = some entry ∧ definition.Accepts entry.2 ∧
        schema.Conforms document entry.2.child definition.children.references ∧
        schema.Conforms document entry.2.next definition.nextSiblings.references := by
  rw [conforms_iff]
  simp only [binds_cons_iff_of_only found only, List.mem_cons, reduceCtorEq, false_or]
  refine or_congr_right ?_
  constructor
  · rintro ⟨place, node, _, followed, ⟨accepts, rfl⟩, below, after⟩
    exact ⟨(place, node), followed, accepts, below, after⟩
  · rintro ⟨entry, followed, accepts, below, after⟩
    exact ⟨entry.1, entry.2, definition, followed, ⟨accepts, rfl⟩, below, after⟩

/-- A definition describes the members of a row if no child may stand below a member, and another
member or nothing after it. -/
structure IsRow (schema : Schema) (name : String) (definition : Definition) : Prop where
  found : schema.find? name = some definition
  children : definition.children.references = [.absent]
  nextSiblings : definition.nextSiblings.references = [.named name, .absent]

namespace IsRow

variable {name : String} {definition : Definition}

theorem binds_iff (row : schema.IsRow name definition) {node : Node} {other : Definition} :
    schema.Binds [.named name, .absent] node other ↔
      definition.Accepts node ∧ definition = other := by
  refine binds_cons_iff_of_only row.found fun name listed => ?_
  cases List.mem_singleton.mp listed

/-- A row is a chain of siblings without children, each of which is accepted. -/
theorem conforms_iff (row : schema.IsRow name definition) :
    schema.Conforms document link [.named name, .absent] ↔
      ∃ nodes, document.Siblings link nodes ∧ ∀ entry ∈ nodes,
        definition.Accepts entry.2 ∧ document.follow entry.2.child = none := by
  constructor
  · intro conforms
    generalize same : [Reference.named name, .absent] = candidates at conforms
    induction conforms with
    | absent nowhere => exact ⟨[], .nil nowhere, fun _ member => absurd member List.not_mem_nil⟩
    | node found binds child _ _ nextHypothesis =>
      subst same
      obtain ⟨accepts, rfl⟩ := row.binds_iff.mp binds
      rw [row.children, conforms_absent_iff] at child
      obtain ⟨nodes, siblings, each⟩ := nextHypothesis row.nextSiblings.symm
      exact ⟨_ :: nodes, .cons found siblings, List.forall_mem_cons.mpr ⟨⟨accepts, child⟩, each⟩⟩
  · intro chain
    obtain ⟨nodes, siblings, each⟩ := chain
    induction siblings with
    | nil nowhere => exact .absent nowhere (List.mem_cons_of_mem _ List.mem_cons_self)
    | cons found _ nextHypothesis =>
      rw [List.forall_mem_cons] at each
      refine .node found (row.binds_iff.mpr ⟨each.1.1, rfl⟩) ?_ ?_
      · rw [row.children, conforms_absent_iff]
        exact each.1.2
      · rw [row.nextSiblings]
        exact nextHypothesis each.2

theorem conforms_nonempty_iff (row : schema.IsRow name definition) :
    schema.Conforms document link [.named name] ↔
      ∃ nodes, document.Siblings link nodes ∧ nodes ≠ [] ∧ ∀ entry ∈ nodes,
        definition.Accepts entry.2 ∧ document.follow entry.2.child = none := by
  rw [conforms_only_iff row.found fun _ listed => absurd listed List.not_mem_nil, row.children,
    row.nextSiblings]
  simp only [conforms_absent_iff, row.conforms_iff, List.not_mem_nil, and_false, false_or]
  constructor
  · intro first
    obtain ⟨entry, found, accepts, child, nodes, siblings, each⟩ := first
    exact ⟨entry :: nodes, .cons found siblings, List.cons_ne_nil _ _,
      List.forall_mem_cons.mpr ⟨⟨accepts, child⟩, each⟩⟩
  · intro chain
    obtain ⟨nodes, siblings, nonempty, each⟩ := chain
    cases siblings with
    | nil => exact absurd rfl nonempty
    | cons found siblings =>
      rw [List.forall_mem_cons] at each
      exact ⟨_, found, each.1.1, each.1.2, _, siblings, each.2⟩

end IsRow

end Schema

/-! ### The format -/

namespace Catalog

/-- The data of a node that places an image: the name of a file, then in brackets as many integers,
with commas between them, as make up one or more groups of four. -/
def IsImageData (data : String) : Prop :=
  ∃ (file : List Char) (groups : Nat) (integers : List (List Char)),
    file ≠ [] ∧ '[' ∉ file ∧ 0 < groups ∧ integers.length = 4 * groups ∧
      (∀ integer ∈ integers, Template.IsInteger integer) ∧
      data.toList = file ++ '[' :: (List.intercalate [','] integers ++ [']'])

/-- The nodes after the header of a file of the format: one with a title and without data, which is
the last of its siblings, and below it the images. -/
structure GhdrBody (document : Document) (link : Option Nat) (head : Nat × Node)
    (images : List (Nat × Node)) : Prop where
  found : document.follow link = some head
  title : head.2.title ≠ ""
  data : head.2.data = ""
  last : document.follow head.2.next = none
  siblings : document.Siblings head.2.child images
  nonempty : images ≠ []
  image : ∀ image ∈ images, image.2.title ≠ "" ∧ document.follow image.2.child = none ∧
    IsImageData image.2.data

/-- The layout of a file of the format: a header with the tag and the version, then the nodes after
it. -/
structure GhdrLayout (document : Document) (root : Option Nat) (header head : Nat × Node)
    (images : List (Nat × Node)) : Prop where
  found : document.follow root = some header
  tag : header.2.title = "GHDR"
  version : header.2.data = "Version 1.0" ∨ Text.strip header.2.data = "1"
  body : GhdrBody document header.2.next head images

/-! ### The nodes that the definitions accept -/

theorem ghdrHead_accepts_iff {node : Node} :
    ghdrHead.Accepts node ↔ node.title ≠ "" ∧ node.data = "" := by
  have title : Template.read ghdrHead.title = .ok (.field "fileTitle".toList .done) := by
    decide +kernel
  have data : Template.read ghdrHead.data = .ok .done := by decide +kernel
  rw [Definition.accepts_iff_of_read title data, Template.matches_lastField_iff,
    Template.matches_done_iff, String.toList_eq_nil_iff, ne_eq, String.toList_eq_nil_iff]

/-- The template of the data of a node that places an image. -/
def imageTemplate : Template :=
  .field "imagefile".toList (.group true (.integers 3) .done)

theorem matches_imageTemplate_iff {data : String} :
    Template.Matches [] imageTemplate data.toList ↔ IsImageData data := by
  rw [imageTemplate, Template.matches_field_iff]
  simp only [Template.matches_repeatedIntegers_iff, Template.stops, List.mem_singleton]
  constructor
  · intro matched
    obtain ⟨file, _, nonempty, free, ⟨groups, integers, positive, length, areIntegers, rfl⟩,
      same⟩ := matched
    exact ⟨file, groups, integers, nonempty, fun member => free _ member rfl, positive,
      by rw [length, Nat.mul_comm], areIntegers, same⟩
  · intro isData
    obtain ⟨file, groups, integers, nonempty, free, positive, length, areIntegers, same⟩ := isData
    refine ⟨file, _, nonempty, fun character member bracket => free (bracket ▸ member),
      ⟨groups, integers, positive, ?_, areIntegers, rfl⟩, same⟩
    rw [length, Nat.mul_comm]

theorem ghdrTitle_accepts_iff {node : Node} :
    ghdrTitle.Accepts node ↔ node.title ≠ "" ∧ IsImageData node.data := by
  have title : Template.read ghdrTitle.title = .ok (.field "text".toList .done) := by
    decide +kernel
  have data : Template.read ghdrTitle.data = .ok imageTemplate := by decide +kernel
  rw [Definition.accepts_iff_of_read title data, Template.matches_lastField_iff, ne_eq,
    String.toList_eq_nil_iff, matches_imageTemplate_iff]

theorem IsImageData.ne_empty {data : String} (isData : IsImageData data) : data ≠ "" := by
  obtain ⟨file, _, _, nonempty, _, _, _, _, same⟩ := isData
  intro empty
  rw [empty] at same
  exact nonempty (List.append_eq_nil_iff.mp same.symm).1

/-! ### The nodes after the header -/

theorem ghdrTitle_isRow : ghdrVersion1.IsRow "title" ghdrTitle where
  found := rfl
  children := rfl
  nextSiblings := rfl

/-- The nodes after the header conform if they are those of a file of the format. -/
theorem conforms_ghdr_iff {document : Document} {link : Option Nat} :
    ghdrVersion1.Conforms document link (ghdrVersion1.headCandidates.map Reference.named) ↔
      ∃ head images, GhdrBody document link head images := by
  have found : ghdrVersion1.find? "head" = some ghdrHead := rfl
  have children : ghdrHead.children.references = [.named "title"] := rfl
  have nextSiblings : ghdrHead.nextSiblings.references = [.absent] := rfl
  show ghdrVersion1.Conforms document link [.named "head"] ↔ _
  rw [Schema.conforms_only_iff found fun _ listed => absurd listed List.not_mem_nil, children,
    nextSiblings]
  simp only [Schema.conforms_absent_iff, ghdrTitle_isRow.conforms_nonempty_iff,
    ghdrHead_accepts_iff, ghdrTitle_accepts_iff, List.not_mem_nil, and_false, false_or]
  constructor
  · intro conforms
    obtain ⟨head, followed, ⟨title, data⟩, ⟨images, siblings, nonempty, each⟩, last⟩ := conforms
    exact ⟨head, images, followed, title, data, last, siblings, nonempty, fun image member =>
      ⟨(each image member).1.1, (each image member).2, (each image member).1.2⟩⟩
  · intro laidOut
    obtain ⟨head, images, body⟩ := laidOut
    exact ⟨head, body.found, ⟨body.title, body.data⟩,
      ⟨images, body.siblings, body.nonempty, fun image member =>
        ⟨⟨(body.image image member).1, (body.image image member).2.2⟩,
          (body.image image member).2.1⟩⟩, body.last⟩

namespace GhdrBody

variable {document : Document} {link : Option Nat} {head : Nat × Node}
  {images : List (Nat × Node)}

/-- The tree after the header: a node, and a row of images below it. -/
def tree (head : Nat × Node) (images : List (Nat × Node)) : NodeTree :=
  .node head.1 head.2 (.row images) .absent

theorem places_tree (head : Nat × Node) (images : List (Nat × Node)) :
    (tree head images).places = head.1 :: images.map Prod.fst := by
  rw [tree, NodeTree.places, NodeTree.places_row, NodeTree.places, List.append_nil]

theorem unfolds (body : GhdrBody document link head images) :
    document.Unfolds link (tree head images) := by
  refine .node body.found ?_ (.absent body.last)
  exact body.siblings.unfolds_row fun image member => (body.image image member).2.1

/-- The node above the images has no data, so it is none of them. -/
theorem nodup (body : GhdrBody document link head images) :
    (tree head images).places.Nodup := by
  rw [places_tree, List.nodup_cons]
  refine ⟨fun again => ?_, body.siblings.nodup⟩
  obtain ⟨image, member, same⟩ := List.mem_map.mp again
  have content : some image.2 = some head.2 := by
    rw [← body.siblings.node?_of_mem member, same,
      (Document.follow_eq_some_iff.mp body.found).2]
  obtain ⟨_, _, isData⟩ := body.image image member
  rw [Option.some.inj content] at isData
  exact isData.ne_empty body.data

end GhdrBody

namespace GhdrLayout

variable {document : Document} {root : Option Nat} {header head : Nat × Node}
  {images : List (Nat × Node)}

theorem bodyAfterHeader (layout : GhdrLayout document root header head images) :
    GhdrBody document (document.afterHeader root) head images := by
  rw [Document.afterHeader, layout.found]
  exact layout.body

theorem nodesOk (layout : GhdrLayout document root header head images) (trace : Bool)
    (filePath : String) :
    (verify ⟨trace, none⟩ ghdr ghdrVersion1 document root filePath).nodesOk = true := by
  have body := layout.bodyAfterHeader
  exact Schema.allConform_visits_iff.mpr ⟨GhdrBody.tree head images, body.unfolds, body.nodup,
    conforms_ghdr_iff.mpr ⟨head, images, body⟩⟩

theorem counted (layout : GhdrLayout document root header head images) (trace : Bool)
    (filePath : String) :
    (verify ⟨trace, none⟩ ghdr ghdrVersion1 document root filePath).counted =
      1 + images.length := by
  have body := layout.bodyAfterHeader
  rw [counted_of_nodesOk body.unfolds body.nodup (layout.nodesOk trace filePath),
    GhdrBody.places_tree, List.length_cons, List.length_map, Nat.add_comm]

end GhdrLayout

/-- A file conforms to the first version of the format exactly if its path has the extension of the
format, case aside, and its nodes have the layout of the format; then the node above the images and
the images are counted. -/
theorem verify_ghdr_ok_iff (trace : Bool) (document : Document) (root : Option Nat)
    (filePath : String) :
    let report := verify ⟨trace, none⟩ ghdr ghdrVersion1 document root filePath
    (report.ok = true ↔ Text.lower (extensionOf filePath) = ".ghdr" ∧
      ∃ header head images, GhdrLayout document root header head images) ∧
    ∀ header head images, GhdrLayout document root header head images →
      report.counted = 1 + images.length := by
  intro report
  have extension : report.extensionOk = true ↔ Text.lower (extensionOf filePath) = ".ghdr" := by
    have lowered : Text.lower ghdrVersion1.fileExtension = ".ghdr" := by decide +kernel
    show (Text.lower ghdrVersion1.fileExtension == Text.lower (extensionOf filePath)) = true ↔ _
    rw [lowered, beq_iff_eq, eq_comm]
  have header : report.headerOk = true ↔
      ∃ entry, document.follow root = some entry ∧ entry.2.title = "GHDR" ∧
        (entry.2.data = "Version 1.0" ∨ Text.strip entry.2.data = "1") := by
    have ordinal : Whole.text? ghdrVersion1.ordinal = some "1" := by decide +kernel
    refine Header.check_eq_true_iff.trans ?_
    simp only [ordinal, Option.some.injEq, eq_comm (a := "1")]
    rfl
  refine ⟨?_, fun header head images layout => layout.counted trace filePath⟩
  rw [ok_verify, Bool.and_eq_true, Bool.and_eq_true, extension, header, and_assoc]
  refine and_congr_right fun _ => ?_
  constructor
  · intro both
    obtain ⟨⟨entry, found, tag, version⟩, nodesOk⟩ := both
    have start : document.afterHeader root = entry.2.next := by
      rw [Document.afterHeader, found]
      rfl
    obtain ⟨_, _, _, conforms⟩ := Schema.allConform_visits_iff.mp nodesOk
    obtain ⟨head, images, body⟩ := conforms_ghdr_iff.mp conforms
    exact ⟨entry, head, images, found, tag, version, start ▸ body⟩
  · intro laidOut
    obtain ⟨entry, head, images, layout⟩ := laidOut
    exact ⟨⟨entry, layout.found, layout.tag, layout.version⟩, layout.nodesOk trace filePath⟩

/-- Two images, one of them placed twice. -/
theorem verify_ghdr_ok_iff_banner :
    let header : Node := { Node.alone "GHDR" " 1" 0 with next := some 1 }
    let head : Node := { Node.alone "banner" "" 0 with child := some 2 }
    let sky : Node := { Node.alone "sky" "sky.png[0,0,640,480]" 1 with next := some 3 }
    let sun : Node := Node.alone "sun" "sun.png[-5,0,20,20,40,0,20,20]" 1
    let document : Document := ⟨#[header, head, sky, sun]⟩
    let report := verify ⟨false, none⟩ ghdr ghdrVersion1 document (some 0) "scenes/banner.GHDR"
    GhdrLayout document (some 0) (0, header) (1, head) [(2, sky), (3, sun)] ∧
      report.ok = true ∧ report.counted = 3 := by
  intro header head sky sun document report
  have skyData : IsImageData sky.data :=
    matches_imageTemplate_iff.mp (Template.matchesList_iff.mp (by decide +kernel))
  have sunData : IsImageData sun.data :=
    matches_imageTemplate_iff.mp (Template.matchesList_iff.mp (by decide +kernel))
  have body : GhdrBody document (some 1) (1, head) [(2, sky), (3, sun)] := {
    found := rfl
    title := by decide
    data := rfl
    last := rfl
    siblings := .cons rfl (.cons rfl (.nil rfl))
    nonempty := List.cons_ne_nil _ _
    image := by
      simp only [List.forall_mem_cons]
      exact ⟨⟨by decide, rfl, skyData⟩, ⟨by decide, rfl, sunData⟩,
        fun _ member => absurd member List.not_mem_nil⟩ }
  have layout : GhdrLayout document (some 0) (0, header) (1, head) [(2, sky), (3, sun)] :=
    ⟨rfl, rfl, Or.inr (by decide +kernel), body⟩
  obtain ⟨ok, counted⟩ := verify_ghdr_ok_iff false document (some 0) "scenes/banner.GHDR"
  exact ⟨layout, ok.mpr ⟨by decide +kernel, _, _, _, layout⟩, counted _ _ _ layout⟩

end Catalog

end TreeSchema
