/-
This file walks the nodes after the header. Slots wait in a list; the one in front is
visited, and a node that is bound there puts the slot of its first child and the slot
of its next sibling in front of the others. A node is counted once, so the walk ends
on every document, whatever its links. The last section states what each visit does,
one lemma for each finding.
-/
import TreeSchema.Verification.Visit

namespace TreeSchema

/-- What stays the same during a walk. -/
structure Walk where
  document : Document
  rules : List Rule
  limit : Option Limit

namespace Walk

/-- The node that a link leads to, with its place. -/
def follow (walk : Walk) (link : Option Nat) : Option (Nat × Node) :=
  walk.document.follow link

/-- The limit, if one more node than were counted is above it. -/
def exceeded? (walk : Walk) (counted : Nat) : Option Limit :=
  walk.limit.filter fun limit => limit.bound < counted + 1

/-- What an empty slot is. -/
def emptyFinding (slot : Slot) : Finding :=
  if Reference.absent ∈ slot.candidates then .absent else .missing

/-- What a counted node is. -/
def nodeFinding (walk : Walk) (slot : Slot) (place : Nat) (node : Node) : Finding :=
  match Rule.bind node (Rule.tried walk.rules slot.candidates) with
  | (rejected, none) => .unidentified place node rejected
  | (rejected, some rule) => .bound place node rejected rule

/-! ### Nodes that were not counted yet -/

/-- The number of nodes that were not counted. -/
def unseen (document : Document) (seen : List Nat) : Nat :=
  (List.range document.size).countP fun place => place ∉ seen

theorem countP_lt {places : List Nat} {place : Nat} {seen : List Nat} (member : place ∈ places)
    (fresh : place ∉ seen) :
    places.countP (fun other => other ∉ place :: seen) <
      places.countP (fun other => other ∉ seen) := by
  induction places with
  | nil => simp at member
  | cons first rest inductionHypothesis =>
    have fewer : rest.countP (fun other => other ∉ place :: seen) ≤
        rest.countP (fun other => other ∉ seen) := by
      refine List.countP_mono_left fun other _ unmet => ?_
      simp only [List.mem_cons, not_or, decide_eq_true_eq] at unmet ⊢
      exact unmet.2
    rw [List.countP_cons, List.countP_cons]
    by_cases same : first = place
    · subst same
      rw [decide_eq_false (by simp), decide_eq_true fresh]
      simp only [Bool.false_eq_true, if_false, if_true]
      omega
    · have inRest : place ∈ rest := by
        rcases List.mem_cons.mp member with equal | inRest
        · exact absurd equal.symm same
        · exact inRest
      have strict := inductionHypothesis inRest
      have kept : (decide (first ∉ place :: seen)) = decide (first ∉ seen) := by
        simp [same]
      rw [kept]
      omega

theorem unseen_cons_lt {document : Document} {place : Nat} {seen : List Nat}
    (inside : place < document.size) (fresh : place ∉ seen) :
    unseen document (place :: seen) < unseen document seen :=
  countP_lt (List.mem_range.mpr inside) fresh

theorem follow_lt {walk : Walk} {link : Option Nat} {place : Nat} {node : Node}
    (found : walk.follow link = some (place, node)) : place < walk.document.size :=
  Document.follow_lt found

/-! ### The walk -/

/-- The visits to the slots that wait and to those they open, given the nodes counted so far. -/
def visits (walk : Walk) (seen : List Nat) (waiting : List Slot) : List Visit :=
  match waiting with
  | [] => []
  | slot :: rest =>
    match _ : walk.follow slot.link with
    | none => ⟨slot, emptyFinding slot⟩ :: visits walk seen rest
    | some (place, node) =>
      if _ : place ∈ seen then ⟨slot, .repeated place node⟩ :: visits walk seen rest
      else
        match walk.exceeded? seen.length with
        | some limit => [⟨slot, .overLimit place limit⟩]
        | none =>
          let visit : Visit := ⟨slot, walk.nodeFinding slot place node⟩
          visit :: visits walk (place :: seen) (visit.opened ++ rest)
termination_by (unseen walk.document seen, waiting.length)
decreasing_by
  · exact Prod.Lex.right _ (Nat.lt_succ_self _)
  · exact Prod.Lex.right _ (Nat.lt_succ_self _)
  · exact Prod.Lex.left _ _ (unseen_cons_lt (follow_lt ‹_›) ‹_›)

/-! ### One visit at a time -/

theorem visits_nil (walk : Walk) (seen : List Nat) : walk.visits seen [] = [] := by
  rw [visits]

theorem visits_empty {walk : Walk} {slot : Slot} (nowhere : walk.follow slot.link = none)
    (seen : List Nat) (rest : List Slot) :
    walk.visits seen (slot :: rest) = ⟨slot, emptyFinding slot⟩ :: walk.visits seen rest := by
  rw [visits]
  split
  · rfl
  next found =>
    rw [nowhere] at found
    cases found

theorem visits_repeated {walk : Walk} {slot : Slot} {place : Nat} {node : Node} {seen : List Nat}
    (found : walk.follow slot.link = some (place, node)) (known : place ∈ seen)
    (rest : List Slot) :
    walk.visits seen (slot :: rest) = ⟨slot, .repeated place node⟩ :: walk.visits seen rest := by
  rw [visits]
  split
  next nowhere =>
    rw [found] at nowhere
    cases nowhere
  next other =>
    rw [found] at other
    cases other
    rw [dif_pos known]

theorem visits_overLimit {walk : Walk} {slot : Slot} {place : Nat} {node : Node} {seen : List Nat}
    {limit : Limit} (found : walk.follow slot.link = some (place, node)) (fresh : place ∉ seen)
    (exceeded : walk.exceeded? seen.length = some limit) (rest : List Slot) :
    walk.visits seen (slot :: rest) = [⟨slot, .overLimit place limit⟩] := by
  rw [visits]
  split
  next nowhere =>
    rw [found] at nowhere
    cases nowhere
  next other =>
    rw [found] at other
    cases other
    rw [dif_neg fresh, exceeded]

theorem visits_counted {walk : Walk} {slot : Slot} {place : Nat} {node : Node} {seen : List Nat}
    (found : walk.follow slot.link = some (place, node)) (fresh : place ∉ seen)
    (within : walk.exceeded? seen.length = none) (rest : List Slot) :
    walk.visits seen (slot :: rest) =
      ⟨slot, walk.nodeFinding slot place node⟩ ::
        walk.visits (place :: seen)
          ((⟨slot, walk.nodeFinding slot place node⟩ : Visit).opened ++ rest) := by
  rw [visits]
  split
  next nowhere =>
    rw [found] at nowhere
    cases nowhere
  next other =>
    rw [found] at other
    cases other
    rw [dif_neg fresh, within]

end Walk

end TreeSchema
