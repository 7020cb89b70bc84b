/-
This file sorts lists. The longest prefix that is in order already, or strictly in
reverse order, is kept as a whole; every later element is put behind the elements it
is not less than, at the place that halving the sorted part finds. Where the order
is a proper one the result is in order, and in every case it has the same elements.
-/

namespace TreeSchema.Sorting

variable {Element : Type}

/-- The longest prefix in which every two neighbours are related, and the elements after it. -/
def run (related : Element → Element → Bool) : List Element → List Element × List Element
  | [] => ([], [])
  | [element] => ([element], [])
  | element :: next :: rest =>
    if related element next then
      let (linked, after) := run related (next :: rest)
      (element :: linked, after)
    else ([element], next :: rest)

/-- The prefix that needs no sorting, brought in order, and the elements after it. -/
def orderedPrefix (less : Element → Element → Bool) :
    List Element → List Element × List Element
  | [] => ([], [])
  | [element] => ([element], [])
  | element :: next :: rest =>
    if less next element then
      let (falling, after) := run (fun first second => less second first) (element :: next :: rest)
      (falling.reverse, after)
    else run (fun first second => !less second first) (element :: next :: rest)

/-- A sorted list with one more element, which is compared with the middle one of the elements
that are still in question. -/
def insert (less : Element → Element → Bool) (element : Element) (sorted : List Element) :
    List Element :=
  match _ : sorted.drop (sorted.length / 2) with
  | [] => [element]
  | middle :: upper =>
    if less element middle then
      insert less element (sorted.take (sorted.length / 2)) ++ middle :: upper
    else sorted.take (sorted.length / 2) ++ middle :: insert less element upper
termination_by sorted.length
decreasing_by
  · have lengths := congrArg List.length ‹sorted.drop _ = _›
    simp only [List.length_drop, List.length_cons] at lengths
    simp only [List.length_take]
    omega
  · have lengths := congrArg List.length ‹sorted.drop _ = _›
    simp only [List.length_drop, List.length_cons] at lengths
    omega

/-- The elements in ascending order. -/
def sort (less : Element → Element → Bool) (elements : List Element) : List Element :=
  let (ordered, rest) := orderedPrefix less elements
  rest.foldl (fun sorted element => insert less element sorted) ordered

/-! ### Nothing is lost -/

theorem run_append (related : Element → Element → Bool) (elements : List Element) :
    (run related elements).1 ++ (run related elements).2 = elements := by
  fun_induction run related elements with
  | case1 => rfl
  | case2 => rfl
  | case3 element next rest _ linked after found inductionHypothesis =>
    rw [found] at inductionHypothesis
    simpa using inductionHypothesis
  | case4 => rfl

theorem orderedPrefix_perm (less : Element → Element → Bool) (elements : List Element) :
    ((orderedPrefix less elements).1 ++ (orderedPrefix less elements).2).Perm elements := by
  fun_cases orderedPrefix less elements with
  | case1 => exact List.Perm.refl _
  | case2 => exact List.Perm.refl _
  | case3 element next rest _ falling after found =>
    have whole := run_append (fun first second => less second first) (element :: next :: rest)
    rw [found] at whole
    rw [← whole]
    exact (List.reverse_perm falling).append_right after
  | case4 element next rest =>
    rw [run_append]

theorem insert_perm (less : Element → Element → Bool) (element : Element)
    (sorted : List Element) : (insert less element sorted).Perm (element :: sorted) := by
  fun_induction insert less element sorted with
  | case1 sorted halved =>
    have lengths := congrArg List.length halved
    simp only [List.length_drop, List.length_nil] at lengths
    have none : sorted = [] := List.eq_nil_of_length_eq_zero (by omega)
    rw [none]
  | case2 sorted middle upper halved _ inductionHypothesis =>
    have whole := List.take_append_drop (sorted.length / 2) sorted
    rw [halved] at whole
    exact (inductionHypothesis.append_right _).trans (List.Perm.of_eq (congrArg _ whole))
  | case3 sorted middle upper halved _ inductionHypothesis =>
    have whole := List.take_append_drop (sorted.length / 2) sorted
    rw [halved] at whole
    have moved := (inductionHypothesis.cons middle).trans (List.Perm.swap element middle upper)
    exact ((moved.append_left _).trans List.perm_middle).trans
      (List.Perm.of_eq (congrArg _ whole))

theorem foldl_insert_perm (less : Element → Element → Bool) (elements sorted : List Element) :
    (elements.foldl (fun sorted element => insert less element sorted) sorted).Perm
      (sorted ++ elements) := by
  induction elements generalizing sorted with
  | nil => rw [List.append_nil, List.foldl_nil]
  | cons element rest inductionHypothesis =>
    exact (inductionHypothesis _).trans
      (((insert_perm less element sorted).append_right rest).trans List.perm_middle.symm)

theorem sort_perm (less : Element → Element → Bool) (elements : List Element) :
    (sort less elements).Perm elements :=
  (foldl_insert_perm less _ _).trans (orderedPrefix_perm less elements)

/-! ### The result is in order -/

/-- No element is less than an earlier one. -/
def Ordered (less : Element → Element → Bool) (elements : List Element) : Prop :=
  elements.Pairwise fun first second => less second first = false

/-- What makes an order a proper one: of two elements at most one is less than the other, and an
element that is not less than a second one, which is not less than a third, is not less than the
third either. -/
structure Proper (less : Element → Element → Bool) : Prop where
  asymmetric : ∀ first second, less first second = true → less second first = false
  transitive : ∀ first second third, less second first = false → less third second = false →
    less third first = false

theorem insert_ordered {less : Element → Element → Bool} (proper : Proper less)
    {sorted : List Element} (ordered : Ordered less sorted) (element : Element) :
    Ordered less (insert less element sorted) := by
  fun_induction insert less element sorted with
  | case1 => exact List.pairwise_singleton _ _
  | case2 sorted middle upper halved isLess inductionHypothesis =>
    have whole := List.take_append_drop (sorted.length / 2) sorted
    rw [halved] at whole
    rw [← whole] at ordered
    obtain ⟨lower, rest, across⟩ := List.pairwise_append.mp ordered
    have behind : ∀ other ∈ middle :: upper, less other element = false := by
      intro other member
      rcases List.mem_cons.mp member with rfl | inUpper
      · exact proper.asymmetric _ _ isLess
      · exact proper.transitive _ _ _ (proper.asymmetric _ _ isLess)
          (List.rel_of_pairwise_cons rest inUpper)
    refine List.pairwise_append.mpr ⟨inductionHypothesis lower, rest, fun first member => ?_⟩
    rcases List.mem_cons.mp ((insert_perm less element _).mem_iff.mp member) with rfl | inLower
    · exact behind
    · exact across first inLower
  | case3 sorted middle upper halved isLess inductionHypothesis =>
    have whole := List.take_append_drop (sorted.length / 2) sorted
    rw [halved] at whole
    rw [← whole] at ordered
    obtain ⟨lower, rest, across⟩ := List.pairwise_append.mp ordered
    obtain ⟨afterMiddle, upperOrdered⟩ := List.pairwise_cons.mp rest
    have notLess : less element middle = false := Bool.eq_false_iff.mpr isLess
    refine List.pairwise_append.mpr
      ⟨lower,
        List.pairwise_cons.mpr ⟨fun other member => ?_, inductionHypothesis upperOrdered⟩,
        fun first inLower other member => ?_⟩
    · rcases List.mem_cons.mp ((insert_perm less element _).mem_iff.mp member) with rfl | inUpper
      · exact notLess
      · exact afterMiddle other inUpper
    · rcases List.mem_cons.mp member with rfl | inserted
      · exact across first inLower _ List.mem_cons_self
      · rcases List.mem_cons.mp ((insert_perm less element _).mem_iff.mp inserted) with
          rfl | inUpper
        · exact proper.transitive _ _ _ (across first inLower _ List.mem_cons_self) notLess
        · exact across first inLower _ (List.mem_cons_of_mem _ inUpper)

/-- A run of a transitive relation relates every element to every later one. -/
theorem run_pairwise (related : Element → Element → Bool)
    (transitive : ∀ first second third, related first second = true →
      related second third = true → related first third = true) (elements : List Element) :
    (run related elements).1.Pairwise fun first second => related first second = true := by
  fun_induction run related elements with
  | case1 => exact List.Pairwise.nil
  | case2 => exact List.pairwise_singleton _ _
  | case3 element next rest isRelated linked after found inductionHypothesis =>
    rw [found] at inductionHypothesis
    refine List.pairwise_cons.mpr ⟨fun other member => ?_, inductionHypothesis⟩
    have starts : ∃ later, linked = next :: later := by
      have same : (run related (next :: rest)).1 = linked := by rw [found]
      rw [← same]
      cases rest with
      | nil => exact ⟨[], rfl⟩
      | cons third rest =>
        rw [run]
        split
        · exact ⟨_, rfl⟩
        · exact ⟨[], rfl⟩
    obtain ⟨later, rfl⟩ := starts
    rcases List.mem_cons.mp member with rfl | inLater
    · exact isRelated
    · exact transitive _ _ _ isRelated (List.rel_of_pairwise_cons inductionHypothesis inLater)
  | case4 => exact List.pairwise_singleton _ _

theorem foldl_insert_ordered {less : Element → Element → Bool} (proper : Proper less)
    (elements : List Element) {sorted : List Element} (ordered : Ordered less sorted) :
    Ordered less (elements.foldl (fun sorted element => insert less element sorted) sorted) := by
  induction elements generalizing sorted with
  | nil => exact ordered
  | cons element rest inductionHypothesis =>
    exact inductionHypothesis (insert_ordered proper ordered element)

theorem orderedPrefix_ordered {less : Element → Element → Bool} (proper : Proper less)
    (elements : List Element) : Ordered less (orderedPrefix less elements).1 := by
  fun_cases orderedPrefix less elements with
  | case1 => exact List.Pairwise.nil
  | case2 => exact List.pairwise_singleton _ _
  | case3 element next rest _ falling after found =>
    have pairwise := run_pairwise (fun first second => less second first)
      (fun first second third isLess isLessToo => by
        cases together : less third first with
        | true => rfl
        | false =>
          rw [proper.transitive _ _ _ together (proper.asymmetric _ _ isLessToo)] at isLess
          exact isLess) (element :: next :: rest)
    rw [found] at pairwise
    exact List.pairwise_reverse.mpr (pairwise.imp fun isLess => proper.asymmetric _ _ isLess)
  | case4 element next rest =>
    have pairwise := run_pairwise (fun first second => !less second first)
      (fun first second third notLess notLessToo => by
        simp only [Bool.not_eq_true'] at notLess notLessToo ⊢
        exact proper.transitive _ _ _ notLess notLessToo) (element :: next :: rest)
    exact pairwise.imp fun notLess => by simpa using notLess

theorem sort_ordered {less : Element → Element → Bool} (proper : Proper less)
    (elements : List Element) : Ordered less (sort less elements) :=
  foldl_insert_ordered proper _ (orderedPrefix_ordered proper elements)

end TreeSchema.Sorting
