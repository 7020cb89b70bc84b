/-
This file proves that a report does not contradict itself. A verification keeps its
flags apart from its trail, and the summary is made from the trail once more, so each
of the three could say something else than the others. What ties them together is
said part by part: the extension, the header and every single visit of the walk leave
an entry that means a failure exactly where they clear their flag, and every entry has
the severity that goes with its code. The trail of a whole run follows by going over
its parts, whatever the links of the document, the options and the texts.
-/
import TreeSchema.Proofs.TreeWalk
import TreeSchema.Verification

namespace TreeSchema

/-- The severity that an entry with the code has. The verdict has a severity of its own. -/
def Code.severity : Code → Severity
  | .extensionMismatch | .headerMismatch | .missingNode | .cyclicLink | .nodeLimit => .error
  | .unidentifiedNode => .warning
  | .candidateRejected | .nodeMatched => .debug
  | .start | .verdict | .other _ => .info

/-- The codes of the failures that a walk may meet. -/
def Code.walkFailures : List Code :=
  [.missingNode, .unidentifiedNode, .cyclicLink, .nodeLimit]

/-- The parts of a report agree. -/
structure Report.Coherent (report : Report) : Prop where
  /-- The file conforms if its extension, its header and its nodes do. -/
  ok_eq : report.ok = (report.extensionOk && report.headerOk && report.nodesOk)
  extensionOk : report.extensionOk = false ↔
    ∃ entry ∈ report.diagnostics, entry.code = .extensionMismatch
  headerOk : report.headerOk = false ↔ ∃ entry ∈ report.diagnostics, entry.code = .headerMismatch
  nodesOk : report.nodesOk = false ↔ ∃ entry ∈ report.diagnostics, entry.code ∈ Code.walkFailures
  ok_iff : report.ok = true ↔ report.problems = []
  /-- The trail is framed by an entry that opens it and the verdict that closes it. -/
  framed : ∃ opening between closing, report.diagnostics = opening :: (between ++ [closing]) ∧
    opening.code = .start ∧ closing.code = .verdict ∧
    closing.severity = (if report.ok then .info else .warning) ∧
    ∀ entry ∈ between, entry.code ≠ .start ∧ entry.code ≠ .verdict
  problem_severity : ∀ entry ∈ report.diagnostics, entry.isProblem = true →
    entry.severity = if entry.code = .unidentifiedNode then .warning else .error
  other_severity : ∀ entry ∈ report.diagnostics, entry.isProblem = false → entry.code ≠ .verdict →
    entry.severity ≠ .error ∧ entry.severity ≠ .warning
  summary_iff : report.summary =
      report.filePath ++ " [" ++ report.tag ++ " " ++ report.label ++ "]: OK\nAll checks passed" ↔
    report.ok = true

/-! ### Entries of some codes -/

/-- The entries have some of the codes, with the severities that go with them. -/
def Concern (codes : List Code) (entries : List Diagnostic) : Prop :=
  ∀ entry ∈ entries, entry.code ∈ codes ∧ entry.severity = entry.code.severity

namespace Concern

variable {codes others : List Code} {entries more : List Diagnostic}

theorem nil : Concern codes [] :=
  fun _ member => absurd member List.not_mem_nil

theorem single {entry : Diagnostic} (code : Code) (same : entry.code = code)
    (graded : entry.severity = code.severity) (listed : code ∈ codes) :
    Concern codes [entry] := by
  intro other member
  rw [List.mem_singleton.mp member, same]
  exact ⟨listed, graded⟩

theorem append (first : Concern codes entries) (second : Concern codes more) :
    Concern codes (entries ++ more) := by
  intro entry member
  rcases List.mem_append.mp member with inFirst | inSecond
  · exact first entry inFirst
  · exact second entry inSecond

theorem mono (concern : Concern codes entries) (wider : codes ⊆ others) : Concern others entries :=
  fun entry member => ⟨wider (concern entry member).1, (concern entry member).2⟩

/-- No entry is of a kind that none of the codes is of. -/
theorem not_exists (concern : Concern codes entries) (kind : Code → Prop)
    (apart : ∀ code ∈ codes, ¬ kind code) : ¬ ∃ entry ∈ entries, kind entry.code := by
  intro found
  obtain ⟨entry, member, is⟩ := found
  exact apart entry.code (concern entry member).1 is

end Concern

/-! ### The extension -/

/-- The entries about the extension of a file. -/
def Verification.extensionEntries (schema : Schema) (filePath : String) : List Diagnostic :=
  if schema.matchesExtension (extensionOf filePath) then []
  else [extensionEntry schema (extensionOf filePath)]

theorem concern_extensionEntries (schema : Schema) (filePath : String) :
    Concern [.extensionMismatch] (Verification.extensionEntries schema filePath) := by
  unfold Verification.extensionEntries
  split
  · exact .nil
  · exact .single .extensionMismatch rfl rfl (by decide)

theorem matchesExtension_eq_false_iff (schema : Schema) (filePath : String) :
    schema.matchesExtension (extensionOf filePath) = false ↔
      ∃ entry ∈ Verification.extensionEntries schema filePath, entry.code = .extensionMismatch := by
  unfold Verification.extensionEntries
  cases schema.matchesExtension (extensionOf filePath) with
  | true => simp
  | false => simp [Verification.extensionEntry]

/-! ### The header -/

theorem concern_titleEntries (catalog : Catalog) (place : Nat) (node : Node) :
    Concern [.headerMismatch] (Header.titleEntries catalog place node) := by
  unfold Header.titleEntries
  split
  · exact .nil
  · exact .single .headerMismatch rfl rfl (by decide)

theorem concern_check (trace : Bool) (catalog : Catalog) (schema : Schema)
    (header : Option (Nat × Node)) :
    Concern [.headerMismatch, .nodeMatched] (Header.check trace catalog schema header).2 := by
  cases header with
  | none => exact .single .headerMismatch rfl rfl (by decide)
  | some found =>
    obtain ⟨place, node⟩ := found
    have titles : Concern [.headerMismatch, .nodeMatched]
        (Header.titleEntries catalog place node) :=
      (concern_titleEntries catalog place node).mono (by decide)
    unfold Header.check
    dsimp only
    split
    · refine titles.append ?_
      split
      · exact .single .nodeMatched rfl rfl (by decide)
      · exact .nil
    · exact titles.append (.single .headerMismatch rfl rfl (by decide))

theorem check_eq_false_iff (trace : Bool) (catalog : Catalog) (schema : Schema)
    (header : Option (Nat × Node)) :
    (Header.check trace catalog schema header).1 = false ↔
      ∃ entry ∈ (Header.check trace catalog schema header).2, entry.code = .headerMismatch := by
  cases header with
  | none => exact iff_of_true rfl ⟨_, List.mem_cons_self, rfl⟩
  | some found =>
    obtain ⟨place, node⟩ := found
    have confirmed (entry : Diagnostic) (matched : entry.code = .nodeMatched) (kept : Bool) :
        ¬ ∃ other ∈ (if kept then [entry] else []), other.code = .headerMismatch := by
      cases kept <;> simp [matched]
    unfold Header.check
    dsimp only
    cases named : Header.namesSchema schema node.data with
    | false =>
      rw [if_neg Bool.false_ne_true]
      refine iff_of_true rfl ⟨_, List.mem_append_right _ List.mem_cons_self, rfl⟩
    | true =>
      rw [if_pos rfl]
      by_cases title : node.title = catalog.tag
      · have titles : Header.titleEntries catalog place node = [] := if_pos title
        rw [titles, List.nil_append]
        exact iff_of_false (Bool.noConfusion) (confirmed _ rfl _)
      · have titles : Header.titleEntries catalog place node = [_] := if_neg title
        rw [titles]
        exact iff_of_true rfl ⟨_, List.mem_append_left _ List.mem_cons_self, rfl⟩

/-! ### The walk -/

theorem concern_rejectedEntries (trace : Bool) (path : String) (place : Nat) (node : Node)
    (rejected : List Rule) :
    Concern [.candidateRejected] (Visit.rejectedEntries trace path place node rejected) := by
  unfold Visit.rejectedEntries
  split
  · intro entry member
    obtain ⟨rule, _, rfl⟩ := List.mem_map.mp member
    exact ⟨List.mem_cons_self, rfl⟩
  · exact .nil

theorem concern_matchedEntries (trace : Bool) (path : String) (place : Nat) (node : Node)
    (definition : Definition) :
    Concern [.nodeMatched]
      (if trace then [Visit.matchedEntry path place node definition] else []) := by
  split
  · exact .single .nodeMatched rfl rfl (by decide)
  · exact .nil

/-- The codes of the entries that report visits. -/
def Code.walkCodes : List Code :=
  walkFailures ++ [.candidateRejected, .nodeMatched]

theorem concern_entries (trace : Bool) (visit : Visit) :
    Concern Code.walkCodes (visit.entries trace) := by
  have rejections (place : Nat) (node : Node) (rejected : List Rule) : Concern Code.walkCodes
      (Visit.rejectedEntries trace visit.slot.path place node rejected) :=
    (concern_rejectedEntries trace visit.slot.path place node rejected).mono (by decide)
  unfold Visit.entries
  dsimp only
  cases visit.finding with
  | absent => exact .nil
  | missing => exact .single .missingNode rfl rfl (by decide)
  | repeated place node => exact .single .cyclicLink rfl rfl (by decide)
  | overLimit place limit => exact .single .nodeLimit rfl rfl (by decide)
  | unidentified place node rejected =>
    exact (rejections place node rejected).append (.single .unidentifiedNode rfl rfl (by decide))
  | bound place node rejected rule =>
    exact (rejections place node rejected).append
      ((concern_matchedEntries trace _ place node rule.definition).mono (by decide))

/-- A visit leaves an entry that means a failure exactly if something is wrong in it. -/
theorem conforms_eq_false_iff (trace : Bool) (visit : Visit) :
    visit.finding.conforms = false ↔
      ∃ entry ∈ visit.entries trace, entry.code ∈ Code.walkFailures := by
  unfold Visit.entries
  dsimp only
  cases visit.finding with
  | absent => exact iff_of_false Bool.noConfusion (by simp)
  | missing =>
    exact iff_of_true rfl ⟨_, List.mem_cons_self, (by decide : Code.missingNode ∈ _)⟩
  | repeated place node =>
    exact iff_of_true rfl ⟨_, List.mem_cons_self, (by decide : Code.cyclicLink ∈ _)⟩
  | overLimit place limit =>
    exact iff_of_true rfl ⟨_, List.mem_cons_self, (by decide : Code.nodeLimit ∈ _)⟩
  | unidentified place node rejected =>
    exact iff_of_true rfl ⟨_, List.mem_append_right _ List.mem_cons_self,
      (by decide : Code.unidentifiedNode ∈ _)⟩
  | bound place node rejected rule =>
    have traced : Concern [.candidateRejected, .nodeMatched] (_ ++ _) :=
      ((concern_rejectedEntries trace visit.slot.path place node rejected).mono (by decide)).append
        ((concern_matchedEntries trace visit.slot.path place node rule.definition).mono (by decide))
    exact iff_of_false Bool.noConfusion (traced.not_exists (· ∈ Code.walkFailures) (by decide))

theorem concern_allEntries (trace : Bool) (visits : List Visit) :
    Concern Code.walkCodes (Visit.allEntries trace visits) := by
  intro entry member
  obtain ⟨visit, _, inVisit⟩ := List.mem_flatMap.mp member
  exact concern_entries trace visit entry inVisit

theorem allConform_eq_false_iff (trace : Bool) (visits : List Visit) :
    Visit.allConform visits = false ↔
      ∃ entry ∈ Visit.allEntries trace visits, entry.code ∈ Code.walkFailures := by
  rw [Visit.allConform, List.all_eq_false]
  simp only [Bool.not_eq_true, conforms_eq_false_iff trace, Visit.allEntries, List.mem_flatMap]
  constructor
  · intro wrong
    obtain ⟨visit, member, entry, inVisit, failure⟩ := wrong
    exact ⟨entry, ⟨visit, member, inVisit⟩, failure⟩
  · intro wrong
    obtain ⟨entry, ⟨visit, member, inVisit⟩, failure⟩ := wrong
    exact ⟨visit, member, entry, inVisit, failure⟩

/-! ### The whole trail -/

namespace Verification

/-- The visits of a verification. -/
def visits (options : Options) (schema : Schema) (document : Document) (root : Option Nat) :
    List Visit :=
  (schema.walk document options.limit).visits [] [firstSlot schema (document.afterHeader root)]

/-- What stands in a report between the entry that opens it and the verdict. -/
def body (options : Options) (catalog : Catalog) (schema : Schema) (document : Document)
    (root : Option Nat) (filePath : String) : List Diagnostic :=
  extensionEntries schema filePath ++
    (Header.check options.trace catalog schema (document.follow root)).2 ++
    Visit.allEntries options.trace (visits options schema document root)

end Verification

section Report

variable (options : Options) (catalog : Catalog) (schema : Schema) (document : Document)
  (root : Option Nat) (filePath : String)

theorem diagnostics_verify :
    (verify options catalog schema document root filePath).diagnostics =
      Verification.startEntry catalog schema filePath ::
        (Verification.body options catalog schema document root filePath ++
          [Verification.verdictEntry catalog schema filePath
            (verify options catalog schema document root filePath).ok]) := by
  rw [ok_verify]
  rfl

theorem nodesOk_verify :
    (verify options catalog schema document root filePath).nodesOk =
      Visit.allConform (Verification.visits options schema document root) := rfl

theorem counted_verify :
    (verify options catalog schema document root filePath).counted =
      Visit.countNodes (Verification.visits options schema document root) := rfl

/-- The codes of the entries between the one that opens a report and the verdict. -/
def Code.bodyCodes : List Code :=
  [extensionMismatch, headerMismatch] ++ walkCodes

theorem concern_body :
    Concern Code.bodyCodes
      (Verification.body options catalog schema document root filePath) := by
  refine (Concern.append ?_ ?_).append ?_
  · exact (concern_extensionEntries schema filePath).mono (by decide)
  · exact (concern_check options.trace catalog schema (document.follow root)).mono (by decide)
  · exact (concern_allEntries options.trace _).mono (by decide)

theorem code_verdictEntry (ok : Bool) :
    (Verification.verdictEntry catalog schema filePath ok).code = .verdict := by
  cases ok <;> rfl

/-- Entries of a kind that only arises in between are found there. -/
theorem exists_diagnostic_iff (kind : Code → Prop) (notStart : ¬ kind .start)
    (notVerdict : ¬ kind .verdict) :
    (∃ entry ∈ (verify options catalog schema document root filePath).diagnostics,
        kind entry.code) ↔
      (∃ entry ∈ Verification.extensionEntries schema filePath, kind entry.code) ∨
      (∃ entry ∈ (Header.check options.trace catalog schema (document.follow root)).2,
        kind entry.code) ∨
      ∃ entry ∈ Visit.allEntries options.trace (Verification.visits options schema document root),
        kind entry.code := by
  have closing (ok : Bool) :
      ¬ kind (Verification.verdictEntry catalog schema filePath ok).code := by
    rw [code_verdictEntry]
    exact notVerdict
  have opening : ¬ kind (Verification.startEntry catalog schema filePath).code := notStart
  rw [diagnostics_verify, Verification.body]
  simp only [List.mem_cons, List.mem_append, List.not_mem_nil, or_false, or_and_right, exists_or,
    exists_eq_left, opening, closing, false_or, or_assoc]

theorem extensionOk_eq_false_iff :
    (verify options catalog schema document root filePath).extensionOk = false ↔
      ∃ entry ∈ (verify options catalog schema document root filePath).diagnostics,
        entry.code = .extensionMismatch := by
  rw [exists_diagnostic_iff options catalog schema document root filePath
    (· = .extensionMismatch) (by decide) (by decide)]
  have header := (concern_check options.trace catalog schema (document.follow root)).not_exists
    (· = .extensionMismatch) (by decide)
  have walk := (concern_allEntries options.trace
    (Verification.visits options schema document root)).not_exists
    (· = .extensionMismatch) (by decide)
  rw [or_iff_left (not_or.mpr ⟨header, walk⟩)]
  exact matchesExtension_eq_false_iff schema filePath

theorem headerOk_eq_false_iff :
    (verify options catalog schema document root filePath).headerOk = false ↔
      ∃ entry ∈ (verify options catalog schema document root filePath).diagnostics,
        entry.code = .headerMismatch := by
  rw [exists_diagnostic_iff options catalog schema document root filePath
    (· = .headerMismatch) (by decide) (by decide)]
  have extension := (concern_extensionEntries schema filePath).not_exists
    (· = .headerMismatch) (by decide)
  have walk := (concern_allEntries options.trace
    (Verification.visits options schema document root)).not_exists
    (· = .headerMismatch) (by decide)
  rw [or_iff_right extension, or_iff_left walk]
  exact check_eq_false_iff options.trace catalog schema (document.follow root)

theorem nodesOk_eq_false_iff :
    (verify options catalog schema document root filePath).nodesOk = false ↔
      ∃ entry ∈ (verify options catalog schema document root filePath).diagnostics,
        entry.code ∈ Code.walkFailures := by
  rw [exists_diagnostic_iff options catalog schema document root filePath
    (· ∈ Code.walkFailures) (by decide) (by decide)]
  have extension := (concern_extensionEntries schema filePath).not_exists
    (· ∈ Code.walkFailures) (by decide)
  have header := (concern_check options.trace catalog schema (document.follow root)).not_exists
    (· ∈ Code.walkFailures) (by decide)
  rw [or_iff_right extension, or_iff_right header, nodesOk_verify]
  exact allConform_eq_false_iff options.trace _

/-- A code means a failure of the extension, of the header or of the walk. -/
theorem isFailure_iff {code : Code} :
    code.isFailure = true ↔
      code = .extensionMismatch ∨ code = .headerMismatch ∨ code ∈ Code.walkFailures := by
  cases code <;> simp [Code.isFailure, Code.walkFailures]

theorem ok_iff_problems_eq_nil :
    (verify options catalog schema document root filePath).ok = true ↔
      (verify options catalog schema document root filePath).problems = [] := by
  have verdict := ok_verify options catalog schema document root filePath
  have extension := extensionOk_eq_false_iff options catalog schema document root filePath
  have header := headerOk_eq_false_iff options catalog schema document root filePath
  have nodes := nodesOk_eq_false_iff options catalog schema document root filePath
  generalize verify options catalog schema document root filePath = report at *
  rw [verdict, Bool.and_eq_true, Bool.and_eq_true, ← Bool.not_eq_false, ← Bool.not_eq_false,
    ← Bool.not_eq_false, extension, header, nodes, Report.problems, List.filter_eq_nil_iff]
  simp only [Diagnostic.isProblem, isFailure_iff, not_or, not_exists, not_and]
  constructor
  · intro apart entry member
    exact ⟨apart.1.1 entry member, apart.1.2 entry member, apart.2 entry member⟩
  · intro apart
    exact ⟨⟨fun entry member => (apart entry member).1,
      fun entry member => (apart entry member).2.1⟩, fun entry member => (apart entry member).2.2⟩

/-- Every entry but the verdict has the severity that goes with its code. -/
theorem severity_eq {entry : Diagnostic}
    (member : entry ∈ (verify options catalog schema document root filePath).diagnostics)
    (notVerdict : entry.code ≠ .verdict) : entry.severity = entry.code.severity := by
  rw [diagnostics_verify, List.mem_cons, List.mem_append, List.mem_singleton] at member
  rcases member with opening | inBody | closing
  · rw [opening]
    rfl
  · exact (concern_body options catalog schema document root filePath entry inBody).2
  · exact absurd (closing ▸ code_verdictEntry ..) notVerdict

theorem severity_of_isFailure {code : Code} (failure : code.isFailure = true) :
    code.severity = if code = .unidentifiedNode then .warning else .error := by
  cases code <;> simp_all [Code.severity, Code.isFailure]

theorem severity_of_not_isFailure {code : Code} (noFailure : code.isFailure = false) :
    code.severity ≠ .error ∧ code.severity ≠ .warning := by
  cases code <;> simp_all [Code.severity, Code.isFailure]

/-- A report that is ok has neither errors nor warnings. -/
theorem faultless_of_ok (ok : (verify options catalog schema document root filePath).ok = true) :
    ∀ entry ∈ (verify options catalog schema document root filePath).diagnostics,
      entry.severity ≠ .error ∧ entry.severity ≠ .warning := by
  intro entry member
  by_cases verdict : entry.code = .verdict
  · rw [diagnostics_verify, List.mem_cons, List.mem_append, List.mem_singleton, ok] at member
    rcases member with opening | inBody | closing
    · rw [opening] at verdict
      cases verdict
    · have listed := (concern_body _ _ _ _ _ _ entry inBody).1
      exact absurd (verdict ▸ listed) (by decide)
    · rw [closing]
      exact ⟨Severity.noConfusion, Severity.noConfusion⟩
  · have problems := (ok_iff_problems_eq_nil ..).mp ok
    rw [Report.problems, List.filter_eq_nil_iff] at problems
    rw [severity_eq _ _ _ _ _ _ member verdict]
    exact severity_of_not_isFailure (Bool.not_eq_true _ ▸ problems entry member)

end Report

/-! ### The summary -/

theorem paragraph_eq_nil {title marker : String} {entries : List Diagnostic} {severity : Severity}
    (none : ∀ entry ∈ entries, entry.severity ≠ severity) :
    Diagnostic.paragraph title marker (entries.filter (Diagnostic.hasSeverity severity)) = [] := by
  have empty : entries.filter (Diagnostic.hasSeverity severity) = [] := by
    rw [List.filter_eq_nil_iff]
    intro entry member
    rw [Diagnostic.hasSeverity, beq_iff_eq]
    exact none entry member
  rw [empty]
  rfl

theorem summary_of_faultless {entries : List Diagnostic}
    (faultless : ∀ entry ∈ entries, entry.severity ≠ .error ∧ entry.severity ≠ .warning) :
    Diagnostic.summary entries = "All checks passed" := by
  rw [Diagnostic.summary, paragraph_eq_nil fun entry member => (faultless entry member).1,
    paragraph_eq_nil fun entry member => (faultless entry member).2]
  rfl

/-- The head line of a report that is not ok differs from that of one that is. -/
theorem summary_ne_of_failed {report : Report} (failed : report.ok = false) :
    report.summary ≠
      report.filePath ++ " [" ++ report.tag ++ " " ++ report.label ++
        "]: OK\nAll checks passed" := by
  intro same
  rw [Report.summary, failed, if_neg Bool.false_ne_true] at same
  have lists := congrArg String.toList same
  simp [String.toList_append] at lists

theorem summary_of_ok {report : Report} (ok : report.ok = true)
    (passed : Diagnostic.summary report.diagnostics = "All checks passed") :
    report.summary =
      report.filePath ++ " [" ++ report.tag ++ " " ++ report.label ++
        "]: OK\nAll checks passed" := by
  rw [Report.summary, ok, passed, if_pos rfl]
  simp only [String.append_assoc]
  rfl

/-- Every report is coherent, whatever the options, the catalog, the schema, the document, the place
of its header and the path of the file. -/
theorem coherent_verify (options : Options) (catalog : Catalog) (schema : Schema)
    (document : Document) (root : Option Nat) (filePath : String) :
    (verify options catalog schema document root filePath).Coherent := by
  have graded (entry : Diagnostic)
      (member : entry ∈ (verify options catalog schema document root filePath).diagnostics)
      (notVerdict : entry.code ≠ .verdict) : entry.severity = entry.code.severity :=
    severity_eq options catalog schema document root filePath member notVerdict
  refine ⟨ok_verify .., extensionOk_eq_false_iff .., headerOk_eq_false_iff .., nodesOk_eq_false_iff ..,
    ok_iff_problems_eq_nil .., ?framed, ?problem, ?other, ?summary⟩
  case framed =>
    refine ⟨_, _, _, diagnostics_verify .., rfl, code_verdictEntry .., ?_, ?_⟩
    · generalize Report.ok _ = ok
      cases ok <;> rfl
    · intro entry member
      have listed := (concern_body _ _ _ _ _ _ entry member).1
      exact ⟨fun same => absurd (same ▸ listed) (by decide),
        fun same => absurd (same ▸ listed) (by decide)⟩
  case problem =>
    intro entry member problem
    have notVerdict : entry.code ≠ .verdict := by
      intro same
      rw [Diagnostic.isProblem, same] at problem
      cases problem
    rw [graded entry member notVerdict]
    exact severity_of_isFailure problem
  case other =>
    intro entry member noProblem notVerdict
    rw [graded entry member notVerdict]
    exact severity_of_not_isFailure noProblem
  case summary =>
    constructor
    · intro same
      by_contra failed
      exact summary_ne_of_failed (Bool.not_eq_true _ ▸ failed) same
    · intro ok
      exact summary_of_ok ok (summary_of_faultless (faultless_of_ok _ _ _ _ _ _ ok))

end TreeSchema
