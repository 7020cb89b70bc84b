/-
This file proves that tracing changes nothing but the trail. While tracing, a verification
does more than it does otherwise: a candidate that does not accept a node is asked for its
reasons, for which both templates are read even where the title alone decides, and the log
takes entries that it drops otherwise. None of this can be noticed in the verdict, in the
number of nodes, or in the rest of the trail. The traced trail holds the other one, in the
same order, with the entries of severity debug in between. This is shown for the entries of
each part of a verification, and follows for the whole because filtering goes through the
parts.
-/
import TreeSchema.Proofs.Direct
import TreeSchema.Proofs.Visits

namespace TreeSchema

/-- Whether an entry is kept without tracing. -/
def Diagnostic.isKept (entry : Diagnostic) : Bool :=
  !entry.hasSeverity .debug

/-- The report with the entries of severity debug removed from its trail. -/
def Report.untraced (report : Report) : Report :=
  { report with diagnostics := report.diagnostics.filter Diagnostic.isKept }

/-! ### Entries that are kept or dropped -/

section Filter

variable {entries : List Diagnostic}

theorem filter_isKept_of_kept (kept : ∀ entry ∈ entries, entry.severity ≠ .debug) :
    entries.filter Diagnostic.isKept = entries := by
  refine List.filter_eq_self.mpr fun entry member => ?_
  simpa [Diagnostic.isKept, Diagnostic.hasSeverity] using kept entry member

theorem filter_isKept_of_dropped (dropped : ∀ entry ∈ entries, entry.severity = .debug) :
    entries.filter Diagnostic.isKept = [] := by
  refine List.filter_eq_nil_iff.mpr fun entry member => ?_
  simp [Diagnostic.isKept, Diagnostic.hasSeverity, dropped entry member]

/-- Entries about failures are kept. -/
theorem Concern.filter_isKept {codes : List Code} (concern : Concern codes entries)
    (failures : ∀ code ∈ codes, code.isFailure = true) :
    entries.filter Diagnostic.isKept = entries := by
  refine filter_isKept_of_kept fun entry member debug => ?_
  obtain ⟨listed, graded⟩ := concern entry member
  rw [graded, severity_of_isFailure (failures _ listed)] at debug
  split at debug <;> cases debug

/-- An entry that is logged only while tracing is dropped otherwise. -/
theorem filter_isKept_debug (trace : Bool) {entry : Diagnostic}
    (debug : entry.severity = .debug) :
    (if trace then [entry] else []).filter Diagnostic.isKept = [] := by
  refine filter_isKept_of_dropped fun other member => ?_
  cases trace with
  | false => cases member
  | true => rw [List.mem_singleton.mp member, debug]

end Filter

/-! ### The parts of a verification -/

/-- The check of a header comes to the same with tracing and without. -/
theorem Header.check_untraced (catalog : Catalog) (schema : Schema)
    (header : Option (Nat × Node)) :
    check false catalog schema header =
      ((check true catalog schema header).1,
        (check true catalog schema header).2.filter Diagnostic.isKept) := by
  cases header with
  | none => rfl
  | some found =>
    obtain ⟨place, node⟩ := found
    have titles := (concern_titleEntries catalog place node).filter_isKept (by decide)
    unfold check
    dsimp only
    split
    · rw [Bool.and_true, Bool.and_false, if_neg Bool.false_ne_true, List.filter_append, titles,
        filter_isKept_debug _ rfl]
    · rw [List.filter_append, titles]
      rfl

/-- The verdict on a header is the same with tracing and without. -/
theorem Header.check_fst_untraced (catalog : Catalog) (schema : Schema)
    (header : Option (Nat × Node)) :
    (check false catalog schema header).1 = (check true catalog schema header).1 := by
  rw [check_untraced]

theorem filter_rejectedEntries (trace : Bool) (path : String) (place : Nat) (node : Node)
    (rejected : List Rule) :
    (Visit.rejectedEntries trace path place node rejected).filter Diagnostic.isKept = [] := by
  refine filter_isKept_of_dropped fun entry member => ?_
  obtain ⟨listed, graded⟩ := concern_rejectedEntries trace path place node rejected entry member
  rw [graded, List.mem_singleton.mp listed]
  rfl

/-- What a visit leaves behind without tracing. -/
theorem Visit.entries_untraced (visit : Visit) :
    visit.entries false = (visit.entries true).filter Diagnostic.isKept := by
  unfold entries
  dsimp only
  cases visit.finding with
  | absent => rfl
  | missing => rfl
  | repeated place node => rfl
  | overLimit place limit => rfl
  | unidentified place node rejected =>
    rw [List.filter_append, filter_rejectedEntries]
    rfl
  | bound place node rejected rule =>
    rw [List.filter_append, filter_rejectedEntries]
    rfl

theorem Visit.allEntries_untraced (visits : List Visit) :
    allEntries false visits = (allEntries true visits).filter Diagnostic.isKept := by
  rw [allEntries, allEntries, List.filter_flatMap]
  exact List.flatMap_congr fun visit _ => visit.entries_untraced

/-! ### The whole verification -/

section Report

variable (limit : Option Limit) (catalog : Catalog) (schema : Schema) (document : Document)
  (root : Option Nat) (filePath : String)

theorem Verification.filter_verdictEntry (ok : Bool) :
    [verdictEntry catalog schema filePath ok].filter Diagnostic.isKept =
      [verdictEntry catalog schema filePath ok] := by
  cases ok <;> rfl

theorem Verification.filter_extensionEntries :
    (extensionEntries schema filePath).filter Diagnostic.isKept =
      extensionEntries schema filePath :=
  (concern_extensionEntries schema filePath).filter_isKept (by decide)

theorem Verification.trail_untraced (visits : List Visit) (ok : Bool) :
    trail catalog schema document root filePath false (Visit.allEntries false visits) ok =
      (trail catalog schema document root filePath true (Visit.allEntries true visits) ok).filter
        Diagnostic.isKept := by
  have opening : [startEntry catalog schema filePath].filter Diagnostic.isKept =
      [startEntry catalog schema filePath] := rfl
  simp only [trail, List.filter_append, opening, filter_extensionEntries, filter_verdictEntry,
    Header.check_untraced, Visit.allEntries_untraced]

/-- The prepared verification, without tracing and while tracing. -/
theorem verify_eq_untraced :
    verify ⟨false, limit⟩ catalog schema document root filePath =
      (verify ⟨true, limit⟩ catalog schema document root filePath).untraced := by
  have header := Header.check_fst_untraced catalog schema (document.follow root)
  have headerOk : (verify ⟨false, limit⟩ catalog schema document root filePath).headerOk =
      (verify ⟨true, limit⟩ catalog schema document root filePath).headerOk := header
  have ok : (verify ⟨false, limit⟩ catalog schema document root filePath).ok =
      (verify ⟨true, limit⟩ catalog schema document root filePath).ok := by
    rw [ok_verify, ok_verify, headerOk]
    rfl
  have diagnostics := diagnostics_verify_eq_trail ⟨false, limit⟩ catalog schema document root
    filePath
  rw [ok, Verification.trail_untraced] at diagnostics
  have traced := diagnostics_verify_eq_trail ⟨true, limit⟩ catalog schema document root filePath
  rw [Report.ext_iff]
  simp only [Report.untraced]
  exact ⟨rfl, rfl, rfl, rfl, ok, rfl, headerOk, rfl, rfl,
    diagnostics.trans (congrArg (List.filter Diagnostic.isKept) traced.symm)⟩

theorem Direct.map_settle {First Second : Type} (obstacle : Option Obstacle) (result : First)
    (change : First → Second) :
    (settle obstacle result).map change = settle obstacle (change result) := by
  cases obstacle <;> rfl

/-- Whether a verification is traced or not shows in nothing but the trail, and the trail without
tracing is the traced one with the entries of severity debug removed, whatever the limit, the
catalog, the schema, the document, the place of its header and the path of the file. This holds of
the verification that reads the templates beforehand, and of the one that reads them for each node
and once more for the reasons that it traces: what breaks it off, if anything, does so with tracing
and without. -/
theorem verify_untraced :
    verify ⟨false, limit⟩ catalog schema document root filePath =
        (verify ⟨true, limit⟩ catalog schema document root filePath).untraced ∧
      Direct.verify ⟨false, limit⟩ catalog schema document root filePath =
        (Direct.verify ⟨true, limit⟩ catalog schema document root filePath).map
          Report.untraced := by
  refine ⟨verify_eq_untraced limit catalog schema document root filePath, ?_⟩
  have same : Verification.obstacle? ⟨false, limit⟩ catalog schema document root =
      Verification.obstacle? ⟨true, limit⟩ catalog schema document root := rfl
  rw [Direct.verify_eq, Direct.verify_eq, Direct.map_settle, same, verify_eq_untraced]

end Report

end TreeSchema
