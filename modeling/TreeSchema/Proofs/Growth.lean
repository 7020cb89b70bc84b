/-
This file shows that a schema may grow without harm to the files that conform to it. The
first candidate that accepts a node binds it, so what is added behind the candidates of a
list is tried only where nothing in front of it accepts. In a file that conforms this
never happens: every node is bound by a candidate that was there before, and every
missing node was allowed to be missing before. The walk under the grown schema is
therefore in step with the walk under the old one, and the reports are equal.
-/
import Mathlib
import TreeSchema.Catalog.BuiltIn
import TreeSchema.Proofs.LockStep

namespace TreeSchema

/-! ### Schemas that allow more -/

namespace Schema

/-- The other schema is for the same version and has every definition of the first one with the same
templates. Its lists of candidates go on where those of the first one end. -/
structure GrowsTo (schema other : Schema) : Prop extends SameVersion schema other where
  headCandidates : schema.headCandidates <+: other.headCandidates
  definitions : ∀ name definition, schema.find? name = some definition →
    ∃ grown, other.find? name = some grown ∧ grown.title = definition.title ∧
      grown.data = definition.data ∧
      definition.children.references <+: grown.children.references ∧
      definition.nextSiblings.references <+: grown.nextSiblings.references

/-- Candidates that resolve, and more candidates behind them. -/
def GrownCandidates (schema : Schema) (candidates more : List Reference) : Prop :=
  candidates <+: more ∧ schema.Resolves candidates

variable {schema other : Schema}

theorem GrowsTo.exists_alike (grows : schema.GrowsTo other) {name : String}
    {definition : Definition} (found : schema.find? name = some definition) :
    ∃ grown, other.find? name = some grown ∧
      definition.Alike schema.GrownCandidates grown := by
  obtain ⟨grown, grownFound, title, data, children, nextSiblings⟩ :=
    grows.definitions name definition found
  obtain ⟨member, named⟩ := mem_of_find? found
  refine ⟨grown, grownFound, ?_, title, data, ?_, ?_⟩
  · rw [named, (mem_of_find? grownFound).2]
  · exact ⟨children, schema.resolves_neighbours member .children⟩
  · exact ⟨nextSiblings, schema.resolves_neighbours member .nextSiblings⟩

/-- The rules that are tried under the grown schema start with those that are tried under the old
one. -/
theorem GrowsTo.exists_tried (grows : schema.GrowsTo other) {candidates more : List Reference}
    (grown : schema.GrownCandidates candidates more) :
    ∃ rules behind, Rule.tried other.rules more = rules ++ behind ∧
      List.Forall₂ (Rule.Alike schema.GrownCandidates) (Rule.tried schema.rules candidates)
        rules := by
  obtain ⟨⟨added, rfl⟩, resolves⟩ := grown
  refine ⟨_, _, List.filterMap_append, forall₂_tried fun name member => ?_⟩
  obtain ⟨definition, found⟩ := resolves name member
  obtain ⟨grown, grownFound, alike⟩ := grows.exists_alike found
  exact ⟨definition, grown, found, grownFound, alike⟩

end Schema

/-! ### One document, two schemas -/

/-- A link leads where it leads. -/
theorem Document.leadsAlike_self (document : Document) (link : Option Nat) :
    LeadsAlike Eq document document link link := by
  cases found : document.follow link with
  | none => exact .nowhere found found
  | some there => exact .paired found found rfl

/-- Every node is paired with itself. -/
theorem Document.paired_self (document : Document) : document.Paired Eq document := by
  have same {place otherPlace : Nat} {node otherNode : Node} (pair : place = otherPlace)
      (here : document.node? place = some node)
      (there : document.node? otherPlace = some otherNode) : otherNode = node := by
    rw [← pair, here, Option.some.injEq] at there
    exact there.symm
  refine ⟨?unique, ?texts, ?links⟩
  case unique =>
    intro place _ second _ pair otherPair
    rw [pair, otherPair]
  case texts =>
    intro place _ node otherNode pair here there
    rw [same pair here there]
    exact ⟨rfl, rfl⟩
  case links =>
    intro place _ node otherNode pair here there link
    rw [same pair here there]
    exact document.leadsAlike_self _

/-- Where nothing is wrong, the walk under the grown schema is in step with the walk under the old
one. -/
theorem Schema.GrowsTo.inStep {schema other : Schema} (grows : schema.GrowsTo other)
    (document : Document) (limit : Option Limit) :
    Walk.InStep Eq schema.GrownCandidates (fun finding => finding.conforms = true)
      (schema.walk document limit) (other.walk document limit) := by
  refine ⟨document.paired_self, rfl, ?empty, ?chosen⟩
  case empty =>
    intro slot otherSlot grown fine
    have allowed : .absent ∈ slot.candidates := by
      by_contra forbidden
      rw [Walk.emptyFinding, if_neg forbidden] at fine
      cases fine
    rw [Walk.emptyFinding, Walk.emptyFinding, if_pos allowed, if_pos (grown.1.subset allowed)]
    exact ⟨rfl, Finding.noConfusion⟩
  case chosen =>
    intro slot otherSlot place node otherNode grown texts fine
    cases chosen : (schema.walk document limit).boundRule slot node with
    | none =>
      rw [Walk.nodeFinding_of_none chosen] at fine
      cases fine
    | some rule =>
      obtain ⟨rules, behind, tried, alike⟩ := grows.exists_tried grown
      obtain ⟨inVain, bound⟩ := Rule.bind_alike texts alike
      rw [show (Rule.bind node (Rule.tried schema.rules slot.candidates)).2 = some rule from chosen]
        at bound
      -- what is tried behind the rule that binds plays no part
      have unchanged : Rule.bind otherNode (Rule.tried other.rules otherSlot.candidates) =
          Rule.bind otherNode rules := by
        rw [tried]
        cases otherChosen : (Rule.bind otherNode rules).2 with
        | none => rw [otherChosen] at bound; cases bound
        | some _ => exact Rule.bind_append_of_some otherChosen behind
      refine ⟨?_, ?_, fun same => absurd same (Option.some_ne_none rule)⟩
      · show List.Forall₂ _ _ (Rule.bind otherNode (Rule.tried other.rules otherSlot.candidates)).1
        rw [unchanged]
        exact inVain
      · show Option.Rel _ _ (Rule.bind otherNode (Rule.tried other.rules otherSlot.candidates)).2
        rw [unchanged]
        exact bound

/-- Entries that are alike are equal where every node is paired with itself. -/
theorem Diagnostic.Alike.eq {entry other : Diagnostic} (alike : entry.Alike Eq other) :
    other = entry := by
  obtain ⟨severity, code, message, path, node⟩ := entry
  obtain ⟨otherSeverity, otherCode, otherMessage, otherPath, otherNode⟩ := other
  obtain ⟨rfl, rfl, rfl, rfl, nodes⟩ := alike
  dsimp only at nodes
  cases nodes with
  | some pair => rw [pair]
  | none => rfl

/-- Reports that are alike are equal where every node is paired with itself. -/
theorem Report.Alike.eq {report other : Report} (alike : report.Alike Eq other) :
    other = report := by
  have diagnostics : report.diagnostics = other.diagnostics :=
    List.forall₂_eq_eq_eq ▸ alike.diagnostics.imp fun _ _ entries => entries.eq.symm
  calc other = { ({ other with diagnostics := [] } : Report) with
        diagnostics := other.diagnostics } := rfl
    _ = { ({ report with diagnostics := [] } : Report) with
        diagnostics := report.diagnostics } := by rw [alike.content, diagnostics]
    _ = report := rfl

/-- A file that conforms to a schema has the same report under every schema that grew from it, under
all options, for every catalog. -/
theorem verify_eq_of_growsTo (options : Options) (catalog : Catalog) (filePath : String)
    {schema other : Schema} (grows : schema.GrowsTo other) (document : Document)
    (root : Option Nat) (ok : (verify options catalog schema document root filePath).ok = true) :
    verify options catalog other document root filePath =
      verify options catalog schema document root filePath := by
  have nodesOk : Visit.allConform (Verification.visits options schema document root) = true := by
    rw [ok_verify, Bool.and_eq_true] at ok
    exact ok.2
  have heads : schema.GrownCandidates (schema.headCandidates.map Reference.named)
      (other.headCandidates.map Reference.named) :=
    ⟨grows.headCandidates.map _, schema.resolves_headCandidates⟩
  exact (verify_alike options catalog filePath grows.toSameVersion (document.leadsAlike_self root)
    (grows.inStep document options.limit) heads (List.all_eq_true.mp nodesOk)).eq

/-! ### Captions below the images -/

/-- A node with a caption. -/
def captionDefinition : Definition where
  name := "caption"
  title := "<text>"
  data := "<#>:<caption>"
  level := 1
  parents := .ofList [.named "head"]
  previousSiblings := .ofList [.named "title", .named "caption", .head]
  nextSiblings := .ofList [.named "caption", .absent]
  children := .ofList []

/-- The first version of the built-in format, with captions where images may stand and behind them,
and on their own after the header. -/
def captioned : Schema where
  label := "Version 1.0"
  ordinal := 1
  fileExtension := ".ghdr"
  definitions := [
    { Catalog.ghdrHead with children := .ofList [.named "title", .named "caption"] },
    { Catalog.ghdrTitle with
      nextSiblings := .ofList [.named "title", .absent, .named "caption"] },
    captionDefinition]
  consistent := by decide +kernel

theorem ghdrVersion1_growsTo_captioned : Catalog.ghdrVersion1.GrowsTo captioned := by
  refine ⟨⟨rfl, rfl, rfl⟩, by decide +kernel, fun name definition found => ?_⟩
  obtain ⟨member, named⟩ := Schema.mem_of_find? found
  rw [← named]
  simp only [Catalog.ghdrVersion1, List.mem_cons, List.not_mem_nil, or_false] at member
  rcases member with rfl | rfl
  · exact ⟨_, rfl, rfl, rfl, by decide, by decide⟩
  · exact ⟨_, rfl, rfl, rfl, by decide, by decide⟩

/-- Two images without captions. -/
theorem verify_eq_of_growsTo_captioned :
    let header : Node := { Node.alone "GHDR" " 1" 0 with next := some 1 }
    let head : Node := { Node.alone "banner" "" 0 with child := some 2 }
    let sky : Node := { Node.alone "sky" "sky.png[0,0,640,480]" 1 with next := some 3 }
    let sun : Node := Node.alone "sun" "sun.png[-5,0,20,20,40,0,20,20]" 1
    let document : Document := ⟨#[header, head, sky, sun]⟩
    let report (schema : Schema) : Report :=
      verify ⟨true, some (.whole 3)⟩ Catalog.ghdr schema document (some 0) "scenes/banner.ghdr"
    Catalog.ghdrVersion1.GrowsTo captioned ∧ (report Catalog.ghdrVersion1).ok = true ∧
      report captioned = report Catalog.ghdrVersion1 := by
  intro header head sky sun document report
  have ok : (report Catalog.ghdrVersion1).ok = true := by
    dsimp only [report, document, header, head, sky, sun]
    cbv
  exact ⟨ghdrVersion1_growsTo_captioned, ok, verify_eq_of_growsTo ⟨true, some (.whole 3)⟩ Catalog.ghdr
    "scenes/banner.ghdr" ghdrVersion1_growsTo_captioned document (some 0) ok⟩

end TreeSchema
