/-
This file compares a walk with a limit on the number of nodes with the same walk without
one. The limit is tested only where a node is about to be counted: a slot without a node,
and a node that was found before, are reported however many nodes were counted. So the
limited walk makes the visits of the other one, up to the first that counts a node too
many, and there it stops and says so. What this leaves of a list of visits is described
apart from the walk, step by step; the verdict, the number of nodes and the trail of a
limited verification are read off from it. A limit that has no text breaks the verification
off there, and nowhere else.
-/
import TreeSchema.Catalog.BuiltIn
import TreeSchema.Proofs.Direct
import TreeSchema.Proofs.Visits

namespace TreeSchema

/-! ### Visits that a limit cuts short -/

namespace Visit

/-- The second list holds the visits of the first one until `most` nodes are counted. The visit that
would count one more only says that the limit is reached, and it is the last. -/
inductive CutShort (limit : Limit) : (most : Nat) → List Visit → List Visit → Prop where
  | ended {most : Nat} : CutShort limit most [] []
  | passed {most : Nat} {visit : Visit} {visits limited : List Visit}
      (uncounted : visit.finding.counts = false) (later : CutShort limit most visits limited) :
      CutShort limit most (visit :: visits) (visit :: limited)
  | counted {most : Nat} {visit : Visit} {visits limited : List Visit}
      (counts : visit.finding.counts = true) (later : CutShort limit most visits limited) :
      CutShort limit (most + 1) (visit :: visits) (visit :: limited)
  | stopped {visit : Visit} {visits : List Visit} {place : Nat}
      (counts : visit.finding.counts = true) (found : visit.finding.place? = some place) :
      CutShort limit 0 (visit :: visits) [⟨visit.slot, .overLimit place limit⟩]

namespace CutShort

variable {limit : Limit} {most : Nat} {visits limited : List Visit}

/-- Where no more nodes are counted than the limit allows, nothing is cut. -/
theorem eq_self (cut : CutShort limit most visits limited) (within : countNodes visits ≤ most) :
    limited = visits := by
  induction cut with
  | ended => rfl
  | passed uncounted _ inductionHypothesis =>
    rw [countNodes_cons_of_not_counts uncounted] at within
    rw [inductionHypothesis within]
  | counted counts _ inductionHypothesis =>
    rw [countNodes_cons_of_counts counts] at within
    rw [inductionHypothesis (Nat.le_of_succ_le_succ within)]
  | stopped counts _ =>
    rw [countNodes_cons_of_counts counts] at within
    exact absurd within (Nat.not_succ_le_zero _)

/-- Where more nodes are counted than the limit allows, the visits are cut at the first node too
many. -/
theorem exists_split (cut : CutShort limit most visits limited)
    (beyond : most < countNodes visits) :
    ∃ before visit after place, visits = before ++ visit :: after ∧ countNodes before = most ∧
      visit.finding.counts = true ∧ visit.finding.place? = some place ∧
      limited = before ++ [⟨visit.slot, .overLimit place limit⟩] := by
  induction cut with
  | ended => exact absurd beyond (Nat.not_lt_zero _)
  | passed uncounted _ inductionHypothesis =>
    rw [countNodes_cons_of_not_counts uncounted] at beyond
    obtain ⟨before, visit, after, place, rfl, count, counts, found, rfl⟩ :=
      inductionHypothesis beyond
    refine ⟨_ :: before, visit, after, place, rfl, ?_, counts, found, rfl⟩
    rw [countNodes_cons_of_not_counts uncounted]
    exact count
  | counted counted _ inductionHypothesis =>
    rw [countNodes_cons_of_counts counted] at beyond
    obtain ⟨before, visit, after, place, rfl, count, counts, found, rfl⟩ :=
      inductionHypothesis (Nat.lt_of_succ_lt_succ beyond)
    refine ⟨_ :: before, visit, after, place, rfl, ?_, counts, found, rfl⟩
    rw [countNodes_cons_of_counts counted]
    exact congrArg (· + 1) count
  | stopped counts found => exact ⟨[], _, _, _, rfl, rfl, counts, found, rfl⟩

/-- Where nothing breaks the visits off, only the limit can once they are cut. -/
theorem obstacle?_eq (cut : CutShort limit most visits limited) (free : obstacle? visits = none) :
    obstacle? limited = if most < countNodes visits then limit.obstacle? else none := by
  by_cases beyond : most < countNodes visits
  · obtain ⟨before, visit, after, place, rfl, _, _, _, rfl⟩ := cut.exists_split beyond
    rw [obstacle?, List.findSome?_append, Option.or_eq_none_iff] at free
    rw [if_pos beyond, obstacle?, List.findSome?_append, free.1, Option.none_or,
      List.findSome?_singleton]
    rfl
  · rw [if_neg beyond, cut.eq_self (Nat.le_of_not_lt beyond), free]

end CutShort

end Visit

/-! ### The walk with a limit -/

namespace Walk

variable {document : Document} {rules : List Rule} {limit : Limit}

/-- One more node is too many exactly if as many as the limit allows were counted. -/
theorem exceeded?_eq_ite (document : Document) (rules : List Rule) (limit : Limit)
    (counted : Nat) :
    (⟨document, rules, some limit⟩ : Walk).exceeded? counted =
      if limit.bound.toNat ≤ counted then some limit else none := by
  have above : limit.bound < (counted : Int) + 1 ↔ limit.bound.toNat ≤ counted := by omega
  simp only [exceeded?, Option.filter_some, decide_eq_true_eq, above]

/-- A limit cuts the visits of a walk short; the nodes that were counted before are part of what it
allows. -/
theorem cutShort_visits (seen : List Nat) (waiting : List Slot) :
    Visit.CutShort limit (limit.bound.toNat - seen.length)
      ((⟨document, rules, none⟩ : Walk).visits seen waiting)
      ((⟨document, rules, some limit⟩ : Walk).visits seen waiting) := by
  induction seen, waiting using visits_induction (⟨document, rules, none⟩ : Walk) with
  | nil seen =>
    rw [visits_nil, visits_nil]
    exact .ended
  | empty seen slot rest nowhere inductionHypothesis =>
    have leads : (⟨document, rules, some limit⟩ : Walk).follow slot.link = none := nowhere
    rw [visits_empty nowhere, visits_empty leads]
    exact .passed (counts_emptyFinding slot) inductionHypothesis
  | repeated seen slot rest place node found known inductionHypothesis =>
    have leads : (⟨document, rules, some limit⟩ : Walk).follow slot.link = some (place, node) :=
      found
    rw [visits_repeated found known, visits_repeated leads known]
    exact .passed rfl inductionHypothesis
  | overLimit seen slot rest place node other found fresh exceeded => cases exceeded
  | counted seen slot rest place node found fresh within inductionHypothesis =>
    have leads : (⟨document, rules, some limit⟩ : Walk).follow slot.link = some (place, node) :=
      found
    have limited := exceeded?_eq_ite document rules limit seen.length
    rw [visits_counted found fresh within]
    by_cases full : limit.bound.toNat ≤ seen.length
    · rw [if_pos full] at limited
      rw [visits_overLimit leads fresh limited, Nat.sub_eq_zero_of_le full]
      exact .stopped (counts_nodeFinding ..) (place?_nodeFinding ..)
    · rw [if_neg full] at limited
      rw [visits_counted leads fresh limited,
        show limit.bound.toNat - seen.length = limit.bound.toNat - (place :: seen).length + 1 by
          rw [List.length_cons]; omega]
      exact .counted (counts_nodeFinding ..) inductionHypothesis

/-- A walk breaks off at its limit only, where this is reached and has no text. -/
theorem obstacle?_visits_limited (document : Document) (rules : List Rule) (limit : Limit)
    (waiting : List Slot) :
    Visit.obstacle? ((⟨document, rules, some limit⟩ : Walk).visits [] waiting) =
      if limit.bound.toNat <
          Visit.countNodes ((⟨document, rules, none⟩ : Walk).visits [] waiting) then
        limit.obstacle?
      else none :=
  (cutShort_visits [] waiting).obstacle?_eq (obstacle?_visits nofun)

/-- A walk without a limit reaches none. -/
theorem code?_ne_nodeLimit {walk : Walk} (unlimited : walk.limit = none) {visit : Visit}
    (meets : walk.Meets visit) : visit.finding.code? ≠ some .nodeLimit := by
  cases meets with
  | @empty slot nowhere =>
    rw [code?_emptyFinding]
    split <;> simp
  | repeated found => simp [Finding.code?]
  | overLimit found limited =>
    rw [unlimited] at limited
    cases limited
  | @counted slot place node found =>
    rcases code?_nodeFinding walk slot place node with code | code <;> simp [code]

end Walk

/-! ### The verification with a limit -/

section Report

variable (trace : Bool) (limit : Limit) (catalog : Catalog) (schema : Schema)
  (document : Document) (root : Option Nat) (filePath : String)

/-- The verification with a limit stops at a node that the one without a limit counts after as many
nodes as the limit allows. Up to this node both leave the same entries. The one with the limit goes
on with the entry that says so and is done; the other one goes on with what it finds there. -/
structure Verification.Stops (report cut : Report) : Prop where
  counted : cut.counted = limit.bound.toNat
  nodesOk : cut.nodesOk = false
  once : (cut.byCode .nodeLimit).length = 1
  trail : ∃ before visit after place,
    visits ⟨trace, none⟩ schema document root = before ++ visit :: after ∧
    Visit.countNodes before = limit.bound.toNat ∧ visit.finding.counts = true ∧
    visit.finding.place? = some place ∧
    report.diagnostics =
      trail catalog schema document root filePath trace
        (Visit.allEntries trace before ++ Visit.allEntries trace (visit :: after)) report.ok ∧
    cut.diagnostics =
      trail catalog schema document root filePath trace
        (Visit.allEntries trace before ++ [Visit.limitEntry visit.slot.path place limit]) false

theorem Verification.cutShort_visits :
    Visit.CutShort limit limit.bound.toNat (visits ⟨trace, none⟩ schema document root)
      (visits ⟨trace, some limit⟩ schema document root) :=
  Walk.cutShort_visits [] _

/-- Without a limit no entry says that one is reached. -/
theorem Verification.countP_nodeLimit_visits :
    (visits ⟨trace, none⟩ schema document root).countP
      (fun visit => visit.finding.code? == some .nodeLimit) = 0 := by
  refine List.countP_eq_zero.mpr fun visit member => ?_
  rw [beq_iff_eq]
  exact Walk.code?_ne_nodeLimit rfl (Walk.meets_of_mem member)

/-- The report knows of the limit only what the visits show of it. -/
theorem verify_eq_of_visits_eq
    (same : Verification.visits ⟨trace, some limit⟩ schema document root =
      Verification.visits ⟨trace, none⟩ schema document root) :
    verify ⟨trace, some limit⟩ catalog schema document root filePath =
      verify ⟨trace, none⟩ catalog schema document root filePath := by
  have nodesOk : (verify ⟨trace, some limit⟩ catalog schema document root filePath).nodesOk =
      (verify ⟨trace, none⟩ catalog schema document root filePath).nodesOk := by
    rw [nodesOk_verify, nodesOk_verify, same]
  have counted : (verify ⟨trace, some limit⟩ catalog schema document root filePath).counted =
      (verify ⟨trace, none⟩ catalog schema document root filePath).counted := by
    rw [counted_verify, counted_verify, same]
  have ok : (verify ⟨trace, some limit⟩ catalog schema document root filePath).ok =
      (verify ⟨trace, none⟩ catalog schema document root filePath).ok := by
    rw [ok_verify, ok_verify, nodesOk]
    rfl
  have diagnostics := diagnostics_verify_eq_trail ⟨trace, some limit⟩ catalog schema document root
    filePath
  rw [same, ok, ← diagnostics_verify_eq_trail ⟨trace, none⟩] at diagnostics
  exact Report.ext rfl rfl rfl rfl ok rfl rfl nodesOk counted diagnostics

theorem Verification.stops_of_lt
    (beyond : limit.bound.toNat <
      (verify ⟨trace, none⟩ catalog schema document root filePath).counted) :
    Stops trace limit catalog schema document root filePath
      (verify ⟨trace, none⟩ catalog schema document root filePath)
      (verify ⟨trace, some limit⟩ catalog schema document root filePath) := by
  rw [counted_verify] at beyond
  obtain ⟨before, visit, after, place, unlimited, count, counts, found, limited⟩ :=
    (cutShort_visits trace limit schema document root).exists_split beyond
  have nodesOk :
      (verify ⟨trace, some limit⟩ catalog schema document root filePath).nodesOk = false := by
    rw [nodesOk_verify, limited, Visit.allConform_append]
    exact Bool.and_false _
  have failed : (verify ⟨trace, some limit⟩ catalog schema document root filePath).ok = false := by
    rw [ok_verify, nodesOk, Bool.and_false]
  refine ⟨?counted, nodesOk, ?once, before, visit, after, place, unlimited, count, counts, found,
    ?whole, ?cut⟩
  case counted =>
    rw [counted_verify, limited, Visit.countNodes_append, count]
    rfl
  case once =>
    have none := countP_nodeLimit_visits trace schema document root
    rw [unlimited, List.countP_append, Nat.add_eq_zero_iff] at none
    rw [length_byCode_verify _ _ _ _ _ _ (by decide), limited, List.countP_append, none.1]
    rfl
  case whole => rw [diagnostics_verify_eq_trail, unlimited, Visit.allEntries_append]
  case cut =>
    rw [diagnostics_verify_eq_trail, limited, failed, Visit.allEntries_append]
    rfl

/-! ### What a limit breaks off -/

/-- Without a limit, only the header may break a verification off. -/
theorem Verification.obstacle?_unlimited :
    obstacle? ⟨trace, none⟩ catalog schema document root =
      Header.obstacle? catalog schema (document.follow root) := by
  have free : Visit.obstacle? (visits ⟨trace, none⟩ schema document root) = none :=
    Walk.obstacle?_visits nofun
  exact (congrArg _ free).trans Option.or_none

/-- With a limit that has no text, so does counting more nodes than it allows. -/
theorem Verification.obstacle?_limited :
    obstacle? ⟨trace, some limit⟩ catalog schema document root =
      (Header.obstacle? catalog schema (document.follow root)).or
        (if limit.bound.toNat <
            (verify ⟨trace, none⟩ catalog schema document root filePath).counted then
          limit.obstacle?
        else none) := by
  rw [counted_verify]
  exact congrArg ((Header.obstacle? catalog schema (document.follow root)).or ·)
    (Walk.obstacle?_visits_limited document schema.rules limit _)

/-- A node is counted exactly if the header leads to one. -/
theorem counted_pos_iff :
    0 < (verify ⟨trace, none⟩ catalog schema document root filePath).counted ↔
      ∃ found, document.follow (document.afterHeader root) = some found := by
  let slot := Verification.firstSlot schema (document.afterHeader root)
  rw [counted_verify, Verification.visits]
  cases leads : document.follow (document.afterHeader root) with
  | none =>
    have nowhere : (schema.walk document none).follow slot.link = none := leads
    rw [Walk.visits_empty nowhere, Walk.visits_nil,
      Visit.countNodes_cons_of_not_counts (Walk.counts_emptyFinding _)]
    exact iff_of_false (Nat.lt_irrefl 0) fun ⟨_, found⟩ => nomatch found
  | some found =>
    obtain ⟨place, node⟩ := found
    have somewhere : (schema.walk document none).follow slot.link = some (place, node) := leads
    have within : (schema.walk document none).exceeded? ([] : List Nat).length = none := rfl
    rw [Walk.visits_counted somewhere List.not_mem_nil within,
      Visit.countNodes_cons_of_counts (Walk.counts_nodeFinding ..)]
    exact iff_of_true (Nat.succ_pos _) ⟨_, rfl⟩

variable {trace limit catalog schema document root filePath} in
/-- A limit that allows no node and has no text breaks off at the first node. -/
theorem Direct.verify_eq_blocked
    (free : Header.obstacle? catalog schema (document.follow root) = none)
    (first : ∃ found, document.follow (document.afterHeader root) = some found)
    (nothing : limit.bound ≤ 0) {obstacle : Obstacle} (unshown : limit.text = .error obstacle) :
    verify ⟨trace, some limit⟩ catalog schema document root filePath =
      .error (.blocked obstacle) := by
  have beyond : limit.bound.toNat <
      (TreeSchema.verify ⟨trace, none⟩ catalog schema document root filePath).counted := by
    rw [Int.toNat_eq_zero.mpr nothing, counted_pos_iff]
    exact first
  rw [verify_eq, Verification.obstacle?_limited trace limit catalog schema document root filePath,
    free, Option.none_or, if_pos beyond, Limit.obstacle?, unshown, settle]

/-- A limit only cuts the walk short, for every schema, document and file, with tracing or without.
What breaks a verification off without a limit does so with one. Otherwise a limit that allows the
nodes that are counted without it changes nothing in the report, and any other one stops the
verification at the first node beyond it, unless the limit has no text. So the nodes are found to
conform with a limit exactly if they are without it and are not too many. -/
theorem Direct.verify_limited :
    (∀ failure, verify ⟨trace, none⟩ catalog schema document root filePath = .error failure →
      verify ⟨trace, some limit⟩ catalog schema document root filePath = .error failure) ∧
    ∀ report, verify ⟨trace, none⟩ catalog schema document root filePath = .ok report →
      (report.counted ≤ limit.bound.toNat →
        verify ⟨trace, some limit⟩ catalog schema document root filePath = .ok report) ∧
      (limit.bound.toNat < report.counted →
        (∀ text, limit.text = .ok text → ∃ cut,
          verify ⟨trace, some limit⟩ catalog schema document root filePath = .ok cut ∧
          Verification.Stops trace limit catalog schema document root filePath report cut) ∧
        ∀ obstacle, limit.text = .error obstacle →
          verify ⟨trace, some limit⟩ catalog schema document root filePath =
            .error (.blocked obstacle)) ∧
      ∀ cut, verify ⟨trace, some limit⟩ catalog schema document root filePath = .ok cut →
        (cut.nodesOk = true ↔ report.nodesOk = true ∧ report.counted ≤ limit.bound.toNat) := by
  have unchanged
      (within : (TreeSchema.verify ⟨trace, none⟩ catalog schema document root filePath).counted ≤
        limit.bound.toNat) :
      TreeSchema.verify ⟨trace, some limit⟩ catalog schema document root filePath =
        TreeSchema.verify ⟨trace, none⟩ catalog schema document root filePath :=
    verify_eq_of_visits_eq trace limit catalog schema document root filePath
      ((Verification.cutShort_visits trace limit schema document root).eq_self within)
  have stops := Verification.stops_of_lt trace limit catalog schema document root filePath
  rw [verify_eq, verify_eq, Verification.obstacle?_unlimited,
    Verification.obstacle?_limited trace limit catalog schema document root filePath]
  cases Header.obstacle? catalog schema (document.follow root) with
  | some obstacle =>
    refine ⟨fun failure failed => ?_, nofun⟩
    cases failed
    rfl
  | none =>
    rw [Option.none_or]
    refine ⟨nofun, fun report reported => ?_⟩
    cases reported
    by_cases beyond : limit.bound.toNat <
        (TreeSchema.verify ⟨trace, none⟩ catalog schema document root filePath).counted
    · rw [if_pos beyond, Limit.obstacle?]
      refine ⟨fun within => absurd within (Nat.not_le.mpr beyond), fun _ => ⟨?_, ?_⟩, ?_⟩
      · intro text shown
        rw [shown]
        exact ⟨_, rfl, stops beyond⟩
      · intro obstacle unshown
        rw [unshown]
        rfl
      · intro cut reported
        rw [← (settle_eq_ok_iff.mp reported).2, (stops beyond).nodesOk]
        exact iff_of_false Bool.false_ne_true fun both => Nat.not_le.mpr beyond both.2
    · have within := Nat.le_of_not_lt beyond
      rw [if_neg beyond, unchanged within]
      refine ⟨fun _ => rfl, fun exceeded => absurd exceeded beyond, fun cut reported => ?_⟩
      cases reported
      rw [and_iff_left within]

end Report

/-- A header and one node after it. -/
def Document.banner : Document :=
  ⟨#[{ Node.alone "GHDR" "Version 1.0" 0 with next := some 1 }, Node.alone "banner" "" 0]⟩

/-- Without a limit, the node after the header is counted. A limit below zero with one digit too many
has no text, so the verification breaks off at this node, and no report says that the limit is
reached. -/
theorem Direct.verify_longLimit :
    let verifyWith (limit : Option Limit) : Except Failure Report :=
      verify ⟨false, limit⟩ Catalog.ghdr Catalog.ghdrVersion1 Document.banner (some 0)
        "banner.ghdr"
    (∃ report, verifyWith none = .ok report ∧ 0 < report.counted) ∧
      verifyWith (some (.whole (-Whole.tooLarge))) = .error (.blocked .unwritable) := by
  intro verifyWith
  have free : Header.obstacle? Catalog.ghdr Catalog.ghdrVersion1
      (Document.banner.follow (some 0)) = none := rfl
  have first : ∃ found, Document.banner.follow (Document.banner.afterHeader (some 0)) =
      some found := ⟨_, rfl⟩
  have unlimited : verifyWith none = .ok (TreeSchema.verify ⟨false, none⟩ Catalog.ghdr
      Catalog.ghdrVersion1 Document.banner (some 0) "banner.ghdr") := by
    show verify _ _ _ _ _ _ = _
    rw [verify_eq, Verification.obstacle?_unlimited, free, settle]
  have nothing : (Limit.whole (-Whole.tooLarge)).bound ≤ 0 := by
    rw [Limit.bound]
    exact Int.le_of_lt Whole.neg_tooLarge_neg
  have unshown : (Limit.whole (-Whole.tooLarge)).text = .error .unwritable := by
    rw [Limit.text, Whole.text?_eq_none_iff.mpr
      (mt Whole.isShort_neg.mp Whole.not_isShort_tooLarge)]
  exact ⟨⟨_, unlimited, (counted_pos_iff ..).mpr first⟩,
    verify_eq_blocked free first nothing unshown⟩

end TreeSchema
