/-
This file says what a verification may depend on. Of a document it knows the texts of
the nodes that the header leads to, and how their links to first children and next
siblings are tied; of a schema it knows the version, the candidates for the node after
the header, and the templates and candidates of the definitions that these candidates
lead to. Two documents with the same nodes and ties under other places, and two schemas
that differ in nothing of that kind, therefore give the same report. Places, levels,
links back to parents and previous siblings, and definitions that no list of candidates
leads to never matter.
-/
import Mathlib.Data.Set.Function
import TreeSchema.Catalog.BuiltIn
import TreeSchema.Proofs.LockStep

namespace TreeSchema

/-! ### Documents under other places -/

namespace Document

/-- The place that a link leads to. -/
def target (document : Document) (link : Option Nat) : Option Nat :=
  (document.follow link).map Prod.fst

/-- First children and next siblings lead from the root to the place. -/
def Reachable (document : Document) (root : Option Nat) (place : Nat) : Prop :=
  ∃ chain, document.reach root chain = some place

/-- The places that the root leads to are mapped one to one to those of the other root; the root
goes to the root, and every node to one with the same texts and the corresponding links. -/
structure Renames (document : Document) (root : Option Nat) (other : Document)
    (otherRoot : Option Nat) (image : Nat → Nat) : Prop where
  bijective : Set.BijOn image {place | document.Reachable root place}
    {place | other.Reachable otherRoot place}
  roots : other.target otherRoot = (document.target root).map image
  texts : ∀ place node otherNode, document.Reachable root place →
    document.node? place = some node → other.node? (image place) = some otherNode →
    otherNode.title = node.title ∧ otherNode.data = node.data
  links : ∀ place node otherNode link, document.Reachable root place →
    document.node? place = some node → other.node? (image place) = some otherNode →
    other.target (otherNode.link link) = (document.target (node.link link)).map image

/-- The graphs of the nodes that two roots lead to are the same up to the places of the nodes. -/
def Isomorphic (document : Document) (root : Option Nat) (other : Document)
    (otherRoot : Option Nat) : Prop :=
  ∃ image, document.Renames root other otherRoot image

/-- A place that is reached and its image. -/
def imagePairs (document : Document) (root : Option Nat) (image : Nat → Nat)
    (place otherPlace : Nat) : Prop :=
  document.Reachable root place ∧ otherPlace = image place

variable {document other : Document} {root otherRoot : Option Nat} {image : Nat → Nat}

theorem target_eq_some_iff {link : Option Nat} {place : Nat} :
    document.target link = some place ↔ ∃ node, document.follow link = some (place, node) := by
  rw [target, Option.map_eq_some_iff]
  constructor
  · intro found
    obtain ⟨⟨_, node⟩, found, rfl⟩ := found
    exact ⟨node, found⟩
  · intro found
    obtain ⟨node, found⟩ := found
    exact ⟨_, found, rfl⟩

theorem target_eq_none_iff {link : Option Nat} :
    document.target link = none ↔ document.follow link = none :=
  Option.map_eq_none_iff

theorem reachable_target {place : Nat} (found : document.target root = some place) :
    document.Reachable root place :=
  ⟨[], found⟩

/-- A link of a node that is reached leads to a node that is reached. -/
theorem Reachable.link {place next : Nat} {node : Node} (reachable : document.Reachable root place)
    (here : document.node? place = some node) {link : Link}
    (found : document.target (node.link link) = some next) : document.Reachable root next := by
  obtain ⟨chain, reached⟩ := reachable
  exact ⟨chain ++ [link], (reach_concat reached here link).trans found⟩

/-- Links that lead to a place and to its image lead alike. -/
theorem leadsAlike_of_target {link otherLink : Option Nat}
    (targets : other.target otherLink = (document.target link).map image)
    (reachable : ∀ place, document.target link = some place → document.Reachable root place) :
    LeadsAlike (document.imagePairs root image) document other link otherLink := by
  cases found : document.target link with
  | none =>
    rw [found] at targets
    exact .nowhere (target_eq_none_iff.mp found) (target_eq_none_iff.mp targets)
  | some place =>
    rw [found] at targets
    obtain ⟨node, here⟩ := target_eq_some_iff.mp found
    obtain ⟨otherNode, there⟩ := target_eq_some_iff.mp targets
    exact .paired here there ⟨reachable place found, rfl⟩

/-- Where links lead to a place and to its image, so do chains of links that start with them, if
every node goes to one with the corresponding links. -/
theorem reach_image
    (nodes : ∀ place node, document.node? place = some node →
      ∃ otherNode, other.node? (image place) = some otherNode ∧
        ∀ link, other.target (otherNode.link link) = (document.target (node.link link)).map image)
    {start otherStart : Option Nat}
    (starts : other.target otherStart = (document.target start).map image) (chain : List Link) :
    other.reach otherStart chain = (document.reach start chain).map image := by
  induction chain generalizing start otherStart with
  | nil => exact starts
  | cons link chain inductionHypothesis =>
    rw [reach, reach]
    cases found : document.target start with
    | none =>
      rw [found] at starts
      rw [target_eq_none_iff.mp found, target_eq_none_iff.mp starts]
      rfl
    | some place =>
      rw [found] at starts
      obtain ⟨node, here⟩ := target_eq_some_iff.mp found
      obtain ⟨otherNode, there⟩ := target_eq_some_iff.mp starts
      obtain ⟨_, otherHere, links⟩ := nodes place node (follow_eq_some_iff.mp here).2
      cases otherHere.symm.trans (follow_eq_some_iff.mp there).2
      rw [here, there]
      exact inductionHypothesis (links link)

/-- A one to one map renames a document if every node goes to one with the same texts and the
corresponding links. -/
theorem renames_of_nodes (injective : Function.Injective image)
    (roots : other.target otherRoot = (document.target root).map image)
    (nodes : ∀ place node, document.node? place = some node →
      ∃ otherNode, other.node? (image place) = some otherNode ∧
        (otherNode.title = node.title ∧ otherNode.data = node.data) ∧
        ∀ link, other.target (otherNode.link link) = (document.target (node.link link)).map image) :
    document.Renames root other otherRoot image := by
  have reached := reach_image (fun place node here =>
    let ⟨otherNode, there, _, links⟩ := nodes place node here
    ⟨otherNode, there, links⟩) roots
  refine ⟨⟨?mapsTo, injective.injOn, ?surjective⟩, roots, ?texts, ?links⟩
  case mapsTo =>
    intro place reachable
    obtain ⟨chain, found⟩ := reachable
    exact ⟨chain, by rw [reached, found]; rfl⟩
  case surjective =>
    intro otherPlace reachable
    obtain ⟨chain, found⟩ := reachable
    rw [reached, Option.map_eq_some_iff] at found
    obtain ⟨place, found, same⟩ := found
    exact ⟨place, ⟨chain, found⟩, same⟩
  case texts =>
    intro place node otherNode _ here there
    obtain ⟨_, found, texts, _⟩ := nodes place node here
    cases found.symm.trans there
    exact texts
  case links =>
    intro place node otherNode link _ here there
    obtain ⟨_, found, _, links⟩ := nodes place node here
    cases found.symm.trans there
    exact links link

theorem Renames.leadsAlike_root (renames : document.Renames root other otherRoot image) :
    LeadsAlike (document.imagePairs root image) document other root otherRoot :=
  leadsAlike_of_target renames.roots fun _ => reachable_target

theorem Renames.paired (renames : document.Renames root other otherRoot image) :
    Paired (document.imagePairs root image) document other := by
  refine ⟨?unique, ?texts, ?links⟩
  case unique =>
    intro place _ second _ pair otherPair
    obtain ⟨reachable, rfl⟩ := pair
    obtain ⟨otherReachable, rfl⟩ := otherPair
    exact (renames.bijective.injOn.eq_iff reachable otherReachable).symm
  case texts =>
    intro place _ node otherNode pair here there
    obtain ⟨reachable, rfl⟩ := pair
    obtain ⟨title, data⟩ := renames.texts place node otherNode reachable here there
    exact ⟨title, data⟩
  case links =>
    intro place _ node otherNode pair here there link
    obtain ⟨reachable, rfl⟩ := pair
    exact leadsAlike_of_target (renames.links place node otherNode link reachable here there)
      fun _ => reachable.link here

end Document

/-! ### Schemas with the same candidates -/

namespace Schema

/-- The names that the candidates for the node after the header lead to, through children and next
siblings. -/
inductive Leads (schema : Schema) : String → Prop where
  | head {name : String} (candidate : name ∈ schema.headCandidates) : Leads schema name
  | child {name other : String} {definition : Definition} (earlier : Leads schema name)
      (found : schema.find? name = some definition)
      (candidate : .named other ∈ definition.children.references) : Leads schema other
  | next {name other : String} {definition : Definition} (earlier : Leads schema name)
      (found : schema.find? name = some definition)
      (candidate : .named other ∈ definition.nextSiblings.references) : Leads schema other

/-- Two schemas for the same version, with the same candidates for the node after the header; each
name that these lead to has the same templates, children and next siblings in both. -/
structure SameGrammar (schema other : Schema) : Prop extends SameVersion schema other where
  headCandidates : other.headCandidates = schema.headCandidates
  definitions : ∀ name definition, schema.Leads name → schema.find? name = some definition →
    ∃ otherDefinition, other.find? name = some otherDefinition ∧
      otherDefinition.title = definition.title ∧ otherDefinition.data = definition.data ∧
      otherDefinition.children = definition.children ∧
      otherDefinition.nextSiblings = definition.nextSiblings

/-- Equal candidates, to whose names the schema leads. -/
def LedCandidates (schema : Schema) (candidates otherCandidates : List Reference) : Prop :=
  otherCandidates = candidates ∧ ∀ name, .named name ∈ candidates → schema.Leads name

variable {schema other : Schema}

/-- Every name that the schema leads to has a definition. -/
theorem Leads.exists_definition {name : String} (leads : schema.Leads name) :
    ∃ definition, schema.find? name = some definition := by
  cases leads with
  | head candidate =>
    exact schema.resolves_headCandidates name (List.mem_map.mpr ⟨name, candidate, rfl⟩)
  | child _ found candidate =>
    exact schema.resolves_neighbours (mem_of_find? found).1 .children name candidate
  | next _ found candidate =>
    exact schema.resolves_neighbours (mem_of_find? found).1 .nextSiblings name candidate

theorem SameGrammar.exists_alike (same : schema.SameGrammar other) {name : String}
    (leads : schema.Leads name) :
    ∃ definition otherDefinition, schema.find? name = some definition ∧
      other.find? name = some otherDefinition ∧
      definition.Alike schema.LedCandidates otherDefinition := by
  obtain ⟨definition, found⟩ := leads.exists_definition
  obtain ⟨otherDefinition, otherFound, title, data, children, nextSiblings⟩ :=
    same.definitions name definition leads found
  refine ⟨definition, otherDefinition, found, otherFound, ?_, title, data, ?_, ?_⟩
  · rw [(mem_of_find? found).2, (mem_of_find? otherFound).2]
  · exact ⟨congrArg Neighbours.references children, fun _ => leads.child found⟩
  · exact ⟨congrArg Neighbours.references nextSiblings, fun _ => leads.next found⟩

/-- Walks over renamed documents under schemas with the same grammar are in step. -/
theorem SameGrammar.inStep (same : schema.SameGrammar other) {pairs : Nat → Nat → Prop}
    {document otherDocument : Document} (paired : document.Paired pairs otherDocument)
    (limit : Option Limit) :
    Walk.InStep pairs schema.LedCandidates (fun _ => True) (schema.walk document limit)
      (other.walk otherDocument limit) := by
  refine ⟨paired, rfl, ?empty, ?chosen⟩
  case empty =>
    intro slot otherSlot agree _
    refine ⟨?_, fun _ => agree.1⟩
    rw [Walk.emptyFinding, Walk.emptyFinding, agree.1]
  case chosen =>
    intro slot otherSlot place node otherNode agree texts _
    have tried : List.Forall₂ (Rule.Alike schema.LedCandidates)
        (Rule.tried schema.rules slot.candidates)
        (Rule.tried other.rules otherSlot.candidates) := by
      rw [agree.1]
      exact forall₂_tried fun name member => same.exists_alike (agree.2 name member)
    obtain ⟨inVain, bound⟩ := Rule.bind_alike texts tried
    exact ⟨inVain, bound, fun _ => agree.1⟩

end Schema

/-! ### Equal reports -/

/-- Reports that are alike say the same. -/
theorem Report.Alike.sameReport {pairs : Nat → Nat → Prop} {report other : Report}
    (alike : report.Alike pairs other) : report.sameReport other = true := by
  have content : (({ report with diagnostics := [] } : Report) ==
      { other with diagnostics := [] }) = true := beq_iff_eq.mpr alike.content.symm
  have lengths : (report.diagnostics.length == other.diagnostics.length) = true :=
    beq_iff_eq.mpr alike.diagnostics.length_eq
  rw [Report.sameReport, content, lengths, Bool.true_and, Bool.true_and, List.all_eq_true]
  intro both member
  obtain ⟨entry, otherEntry⟩ := both
  have entries := List.forall₂_zip alike.diagnostics member
  simp only [Diagnostic.sameReport, entries.severity, entries.code, entries.message, entries.path,
    beq_self_eq_true, Bool.and_self]

/-- Documents whose graphs are the same up to the places of the nodes, and schemas with the same
grammar, give the same report under all options, for every catalog and every path. -/
theorem sameReport_of_isomorphic (options : Options) (catalog : Catalog) (filePath : String)
    {schema other : Schema} (grammars : schema.SameGrammar other)
    {document otherDocument : Document} {root otherRoot : Option Nat}
    (graphs : document.Isomorphic root otherDocument otherRoot) :
    (verify options catalog schema document root filePath).sameReport
      (verify options catalog other otherDocument otherRoot filePath) = true := by
  obtain ⟨image, renames⟩ := graphs
  have heads : schema.LedCandidates (schema.headCandidates.map Reference.named)
      (other.headCandidates.map Reference.named) := by
    refine ⟨by rw [grammars.headCandidates], fun name listed => ?_⟩
    obtain ⟨_, candidate, same⟩ := List.mem_map.mp listed
    cases same
    exact .head candidate
  exact (verify_alike options catalog filePath grammars.toSameVersion renames.leadsAlike_root
    (grammars.inStep renames.paired options.limit) heads fun _ _ => trivial).sameReport

/-! ### A cycle, moved by one place -/

/-- The first version of the built-in format with other levels, other neighbours in front of and
above the nodes, and a definition that no list of candidates leads to. -/
def rearranged : Schema where
  label := "Version 1.0"
  ordinal := 1
  fileExtension := ".ghdr"
  definitions := [
    { Catalog.ghdrTitle with
      level := 7, parents := .ofList [], previousSiblings := .ofList [.named "spare"] },
    { Catalog.ghdrHead with level := 3, previousSiblings := .ofList [.absent, .head, .absent] },
    { Catalog.ghdrHead with name := "spare", previousSiblings := .ofList [] }]
  consistent := by decide +kernel

theorem ghdrVersion1_sameGrammar_rearranged : Catalog.ghdrVersion1.SameGrammar rearranged := by
  refine ⟨⟨rfl, rfl, rfl⟩, by decide +kernel, fun name definition _ found => ?_⟩
  obtain ⟨member, named⟩ := Schema.mem_of_find? found
  rw [← named]
  simp only [Catalog.ghdrVersion1, List.mem_cons, List.not_mem_nil, or_false] at member
  rcases member with rfl | rfl
  · exact ⟨_, rfl, rfl, rfl, rfl, rfl⟩
  · exact ⟨_, rfl, rfl, rfl, rfl, rfl⟩

/-- An image whose next sibling is the node above it. -/
theorem sameReport_of_isomorphic_cycle :
    let header : Node := { Node.alone "GHDR" "1" 0 with next := some 1 }
    let head : Node := { Node.alone "banner" "" 0 with child := some 2 }
    let sky : Node := { Node.alone "sky" "sky.png[0,0,640,480]" 1 with next := some 1 }
    let document : Document := ⟨#[header, head, sky]⟩
    let spare : Node := { Node.alone "spare" "" 0 with next := some 0 }
    let moved : Document :=
      ⟨#[spare, { header with next := some 2 }, { head with level := -1, child := some 3 },
        { sky with parent := some 0, previous := some 3, next := some 2 }]⟩
    Catalog.ghdrVersion1.SameGrammar rearranged ∧
      document.Isomorphic (some 0) moved (some 1) ∧
      (verify ⟨true, none⟩ Catalog.ghdr Catalog.ghdrVersion1 document (some 0)
          "banner.ghdr").sameReport
        (verify ⟨true, none⟩ Catalog.ghdr rearranged moved (some 1) "banner.ghdr") = true := by
  intro header head sky document spare moved
  have isomorphic : document.Isomorphic (some 0) moved (some 1) := by
    refine ⟨(· + 1), Document.renames_of_nodes (fun _ _ => Nat.succ.inj) rfl ?_⟩
    intro place node found
    match place with
    | 0 => cases found; exact ⟨_, rfl, ⟨rfl, rfl⟩, fun link => by cases link <;> rfl⟩
    | 1 => cases found; exact ⟨_, rfl, ⟨rfl, rfl⟩, fun link => by cases link <;> rfl⟩
    | 2 => cases found; exact ⟨_, rfl, ⟨rfl, rfl⟩, fun link => by cases link <;> rfl⟩
    | _ + 3 => cases found
  exact ⟨ghdrVersion1_sameGrammar_rearranged, isomorphic,
    sameReport_of_isomorphic ⟨true, none⟩ Catalog.ghdr "banner.ghdr"
      ghdrVersion1_sameGrammar_rearranged isomorphic⟩

end TreeSchema
