/-
This file says what the mappings to lower and to upper case do to one letter, as far as the
tables decide it. A run moves its letters all by one distance, so it moves the points between
its first and its last letter into the points between the images of these two, and a question
about all letters of a run is one about four numbers. Dots and separators are the image of
nothing else. What a lower case is made of is in lower case itself. A letter is steady if
its upper case has the same lower case, and then both count alike where a sigma is mapped.
-/
import Mathlib
import TreeSchema.Text.Case
import TreeSchema.Verification.Extension

namespace TreeSchema.Text

/-- The lower case of a letter that is not a capital sigma. -/
def lowerLetter (letter : Char) : List Char :=
  mapCase lowerRuns lowerExpansions letter

/-- The upper case of a letter. -/
def upperLetter (letter : Char) : List Char :=
  mapCase upperRuns upperExpansions letter

/-- The letter has the lower case of its upper case. -/
def Steady (letter : Char) : Prop :=
  (upperLetter letter).flatMap lowerLetter = lowerLetter letter

instance (letter : Char) : Decidable (Steady letter) :=
  inferInstanceAs (Decidable (_ = _))

/-! ### Runs -/

namespace CaseRun

/-- Where the run moves a point. -/
def image (run : CaseRun) (point : Nat) : Nat :=
  (point + run.distance).toNat

/-- The run moves nothing to the points from `low` to `high`. -/
def misses (run : CaseRun) (low high : Nat) : Bool :=
  Nat.blt high (run.image run.first) || Nat.blt (run.image run.last) low

variable {run : CaseRun} {point : Nat}

theorem covers_iff : run.covers point = true ↔
    run.first ≤ point ∧ point ≤ run.last ∧ (point - run.first) % run.stride = 0 := by
  rw [covers, Bool.and_eq_true, Bool.and_eq_true, decide_eq_true_eq, decide_eq_true_eq,
    beq_iff_eq, and_assoc]

theorem image_mono {lower upper : Nat} (order : lower ≤ upper) :
    run.image lower ≤ run.image upper := by
  unfold image
  omega

/-- The image of a point of the run stands between the images of the ends. -/
theorem image_between (covered : run.covers point = true) :
    run.image run.first ≤ run.image point ∧ run.image point ≤ run.image run.last := by
  obtain ⟨first, last, _⟩ := covers_iff.mp covered
  exact ⟨image_mono first, image_mono last⟩

/-- A range that the run misses holds no image. -/
theorem not_between_of_misses {low high : Nat} (missed : run.misses low high = true)
    (covered : run.covers point = true) : ¬ (low ≤ run.image point ∧ run.image point ≤ high) := by
  obtain ⟨first, last⟩ := image_between covered
  rw [misses, Bool.or_eq_true, Nat.blt_eq, Nat.blt_eq] at missed
  omega

/-- The run gives characters only: no surrogates, and nothing beyond the last code point. -/
def givesCharacters (run : CaseRun) : Bool :=
  run.misses 0xD800 0xDFFF && Nat.blt (run.image run.last) 0x110000

theorem toNat_ofNat_image (gives : run.givesCharacters = true)
    (covered : run.covers point = true) :
    (Char.ofNat (run.image point)).toNat = run.image point := by
  rw [givesCharacters, Bool.and_eq_true, Nat.blt_eq] at gives
  obtain ⟨missed, bounded⟩ := gives
  have outside := not_between_of_misses missed covered
  have below := (image_between covered).2
  have valid : (run.image point).isValidChar := by
    unfold Nat.isValidChar
    omega
  rw [Char.toNat_ofNat, if_pos valid]

end CaseRun

/-! ### Single letters -/

/-- No expansion gives the point. -/
def isUnexpanded (expansions : List (Nat × List Nat)) (point : Nat) : Bool :=
  point != 0 && expansions.all fun entry => !entry.2.contains point

/-- No run and no expansion gives the point. -/
def isNoImage (runs : List CaseRun) (expansions : List (Nat × List Nat)) (point : Nat) : Bool :=
  isUnexpanded expansions point && runs.all fun run => run.misses point point

section Mapping

variable {runs : List CaseRun} {expansions : List (Nat × List Nat)} {letter : Char}

/-- A letter is expanded, or moved by a run, or stays as it is. -/
theorem mapCase_cases (runs : List CaseRun) (expansions : List (Nat × List Nat)) (letter : Char) :
    (∃ entry ∈ expansions, entry.1 = letter.toNat ∧
      mapCase runs expansions letter = entry.2.map Char.ofNat) ∨
    (∃ run ∈ runs, run.covers letter.toNat = true ∧
      mapCase runs expansions letter = [Char.ofNat (run.image letter.toNat)]) ∨
    mapCase runs expansions letter = [letter] := by
  unfold mapCase
  split
  next entry found =>
    exact Or.inl ⟨entry, List.mem_of_find?_eq_some found,
      beq_iff_eq.mp (List.find?_some found :), rfl⟩
  · rw [shiftCase]
    split
    next run found =>
      exact Or.inr (Or.inl ⟨run, List.mem_of_find?_eq_some found,
        (List.find?_some found :), rfl⟩)
    · exact Or.inr (Or.inr rfl)

/-- Only a code point that is a character gives a character other than the first one. -/
theorem toNat_ofNat_of_ne_zero {point : Nat} (nonzero : (Char.ofNat point).toNat ≠ 0) :
    (Char.ofNat point).toNat = point := by
  rw [Char.toNat_ofNat] at nonzero ⊢
  split at nonzero
  next valid => exact if_pos valid
  · exact absurd rfl nonzero

/-- A character that no expansion gives comes from itself or from a letter that a run moves to
it. -/
theorem eq_or_exists_run_of_mem_mapCase {target : Char}
    (unexpanded : isUnexpanded expansions target.toNat = true)
    (member : target ∈ mapCase runs expansions letter) :
    letter = target ∨ ∃ run ∈ runs, run.covers letter.toNat = true ∧
      run.image letter.toNat = target.toNat := by
  rw [isUnexpanded, Bool.and_eq_true, bne_iff_ne, List.all_eq_true] at unexpanded
  obtain ⟨nonzero, absent⟩ := unexpanded
  rcases mapCase_cases runs expansions letter with
    ⟨entry, listed, _, mapped⟩ | ⟨run, listed, covered, mapped⟩ | mapped
  · rw [mapped, List.mem_map] at member
    obtain ⟨point, given, rfl⟩ := member
    have lacking := absent entry listed
    rw [toNat_ofNat_of_ne_zero nonzero, Bool.not_eq_true', ← Bool.not_eq_true,
      List.contains_iff_mem] at lacking
    exact absurd given lacking
  · rw [mapped, List.mem_singleton] at member
    subst member
    exact Or.inr ⟨run, listed, covered, (toNat_ofNat_of_ne_zero nonzero).symm⟩
  · rw [mapped, List.mem_singleton] at member
    exact Or.inl member.symm

/-- A character that no run and no expansion gives comes from itself only. -/
theorem eq_of_mem_mapCase {target : Char} (noImage : isNoImage runs expansions target.toNat = true)
    (member : target ∈ mapCase runs expansions letter) : letter = target := by
  rw [isNoImage, Bool.and_eq_true, List.all_eq_true] at noImage
  obtain ⟨unexpanded, missed⟩ := noImage
  rcases eq_or_exists_run_of_mem_mapCase unexpanded member with
    same | ⟨run, listed, covered, image⟩
  · exact same
  · exact absurd ⟨image.ge, image.le⟩ (CaseRun.not_between_of_misses (missed run listed) covered)

end Mapping

/-! ### Dots, separators and sigmas -/

/-- The characters at which a path is taken apart. -/
def marks : List Char :=
  ['.', '/', '\\']

/-- The tables leave each of these characters as it is and make none of them of another one. -/
def keepsMarks (runs : List CaseRun) (expansions : List (Nat × List Nat)) : Bool :=
  marks.all fun mark => mapCase runs expansions mark == [mark] &&
    isNoImage runs expansions mark.toNat

theorem keepsMarks_lower : keepsMarks lowerRuns lowerExpansions = true := by
  decide +kernel

theorem keepsMarks_upper : keepsMarks upperRuns upperExpansions = true := by
  decide +kernel

theorem mapCase_mark {runs : List CaseRun} {expansions : List (Nat × List Nat)} {mark : Char}
    (kept : keepsMarks runs expansions = true) (isMark : mark ∈ marks) :
    mapCase runs expansions mark = [mark] ∧
      ∀ letter, mark ∈ mapCase runs expansions letter → letter = mark := by
  have row := List.all_eq_true.mp kept mark isMark
  rw [Bool.and_eq_true, beq_iff_eq] at row
  exact ⟨row.1, fun _ member => eq_of_mem_mapCase row.2 member⟩

theorem capitalSigma_not_mem_lowerLetter (letter : Char) : 'Σ' ∉ lowerLetter letter := by
  intro member
  have same : letter = 'Σ' := eq_of_mem_mapCase (by decide +kernel) member
  have lowered : lowerLetter 'Σ' = ['σ'] := by decide +kernel
  rw [same, lowered] at member
  exact absurd member (by decide)

/-- A sigma in one of its three forms. -/
def IsSigma (letter : Char) : Prop :=
  letter = 'Σ' ∨ letter = 'σ' ∨ letter = 'ς'

/-- A capital sigma is the upper case of the three sigmas only. -/
theorem isSigma_of_capitalSigma_mem_upperLetter {letter : Char}
    (member : 'Σ' ∈ upperLetter letter) : IsSigma letter := by
  have table : ∀ run ∈ upperRuns, run.misses 'Σ'.toNat 'Σ'.toNat = true ∨
      run.distance = -31 ∨ run.distance = -32 := by decide +kernel
  rcases eq_or_exists_run_of_mem_mapCase (by decide +kernel) member with
    same | ⟨run, listed, covered, image⟩
  · exact Or.inl same
  · rcases table run listed with missed | distance | distance
    · exact absurd ⟨image.ge, image.le⟩ (CaseRun.not_between_of_misses missed covered)
    · have final : letter.toNat = 'ς'.toNat := by
        rw [CaseRun.image, distance, show 'Σ'.toNat = 931 from rfl] at image
        show letter.toNat = 962
        omega
      exact Or.inr (Or.inr (Char.toNat_inj.mp final))
    · have small : letter.toNat = 'σ'.toNat := by
        rw [CaseRun.image, distance, show 'Σ'.toNat = 931 from rfl] at image
        show letter.toNat = 963
        omega
      exact Or.inr (Or.inl (Char.toNat_inj.mp small))

/-! ### Lower case once more -/

/-- The second run does not go on where the first one ends up: their ranges are apart, or both
take every second point at most, and not the same ones. -/
def CaseRun.endsOutside (first second : CaseRun) : Bool :=
  first.misses second.first second.last ||
    (first.stride == 2 || first.first == first.last) && second.stride == 2 &&
      first.image first.first != 0 && (first.image first.first + second.first) % 2 == 1

theorem CaseRun.covers_image_eq_false {first second : CaseRun}
    (outside : first.endsOutside second = true) {point : Nat}
    (covered : first.covers point = true) :
    second.covers (first.image point) = false := by
  rw [Bool.eq_false_iff]
  intro coveredAgain
  obtain ⟨low, high, even⟩ := covers_iff.mp coveredAgain
  rw [endsOutside, Bool.or_eq_true, Bool.and_eq_true, Bool.and_eq_true, Bool.and_eq_true,
    Bool.or_eq_true, beq_iff_eq, beq_iff_eq, beq_iff_eq, bne_iff_ne, beq_iff_eq] at outside
  rcases outside with missed | ⟨⟨⟨steps, secondStride⟩, nonzero⟩, parity⟩
  · exact not_between_of_misses missed covered ⟨low, high⟩
  · obtain ⟨start, stop, evenFirst⟩ := covers_iff.mp covered
    have evenFirst : (point - first.first) % 2 = 0 := by
      rcases steps with stride | single
      · rwa [stride] at evenFirst
      · omega
    rw [secondStride] at even
    unfold image at low even nonzero parity
    omega

/-- Where a run to lower case ends up no run to lower case begins. -/
theorem lowerRuns_endOutside : (lowerRuns.all fun first => lowerRuns.all fun second =>
    first.endsOutside second) = true := by
  decide +kernel

/-- Only a dotted capital I is expanded in lower case. -/
theorem eq_of_lowerExpansion {letter : Char} {entry : Nat × List Nat}
    (listed : entry ∈ lowerExpansions) (key : entry.1 = letter.toNat) : letter = 'İ' := by
  have table : ∀ entry ∈ lowerExpansions, entry.1 = 'İ'.toNat := by decide
  exact Char.toNat_inj.mp (key.symm.trans (table entry listed))

theorem length_lowerLetter {letter : Char} (plain : letter ≠ 'İ') :
    (lowerLetter letter).length = 1 := by
  rcases mapCase_cases lowerRuns lowerExpansions letter with
    ⟨entry, listed, key, _⟩ | ⟨run, _, _, mapped⟩ | mapped
  · exact absurd (eq_of_lowerExpansion listed key) plain
  · rw [lowerLetter, mapped]
    rfl
  · rw [lowerLetter, mapped]
    rfl

/-- Where a run to lower case ends up there is nothing to map. -/
theorem lowerLetter_image {first : CaseRun} (listed : first ∈ lowerRuns) {point : Nat}
    (covered : first.covers point = true) :
    lowerLetter (Char.ofNat (first.image point)) = [Char.ofNat (first.image point)] := by
  have table : (lowerRuns.all fun run => run.givesCharacters &&
      run.misses 'İ'.toNat 'İ'.toNat) = true := by decide +kernel
  have row := List.all_eq_true.mp table first listed
  rw [Bool.and_eq_true] at row
  obtain ⟨gives, missed⟩ := row
  have image := CaseRun.toNat_ofNat_image gives covered
  rcases mapCase_cases lowerRuns lowerExpansions (Char.ofNat (first.image point)) with
    ⟨entry, entryListed, key, _⟩ | ⟨second, secondListed, coveredAgain, _⟩ | same
  · rw [eq_of_lowerExpansion entryListed key] at image
    exact absurd ⟨image.le, image.ge⟩ (CaseRun.not_between_of_misses missed covered)
  · have outside := List.all_eq_true.mp
      (List.all_eq_true.mp lowerRuns_endOutside first listed) second secondListed
    rw [image, CaseRun.covers_image_eq_false outside covered] at coveredAgain
    exact Bool.noConfusion coveredAgain
  · exact same

/-- What a lower case is made of is in lower case. -/
theorem lowerLetter_of_mem {letter lowered : Char} (member : lowered ∈ lowerLetter letter) :
    lowerLetter lowered = [lowered] := by
  rcases mapCase_cases lowerRuns lowerExpansions letter with
    ⟨entry, listed, _, mapped⟩ | ⟨run, listed, covered, mapped⟩ | mapped
  · have table : (lowerExpansions.all fun entry => (entry.2.map Char.ofNat).all fun lowered =>
        lowerLetter lowered == [lowered]) = true := by decide +kernel
    rw [lowerLetter, mapped] at member
    exact beq_iff_eq.mp (List.all_eq_true.mp (List.all_eq_true.mp table entry listed) _ member)
  · rw [lowerLetter, mapped, List.mem_singleton] at member
    rw [member]
    exact lowerLetter_image listed covered
  · rw [lowerLetter, mapped, List.mem_singleton] at member
    rw [member]
    exact mapped

/-! ### Steady letters -/

/-- Everything from `low` to `high` has case and weight: one range of letters with case holds it
all, and in this range no character is without weight. -/
def weighty (low high : Nat) : Bool :=
  casedRanges.any fun range =>
    Nat.ble high range.2 && Nat.ble range.1 low &&
      ignorableRanges.all fun other => Nat.blt range.2 other.1 || Nat.blt other.2 range.1

/-- Both characters count alike for the end of a word. -/
def CountAlike (first second : Char) : Prop :=
  ignorableRanges.covers first = ignorableRanges.covers second ∧
    casedRanges.covers first = casedRanges.covers second

instance (first second : Char) : Decidable (CountAlike first second) :=
  inferInstanceAs (Decidable (_ ∧ _))

theorem covers_of_weighty {low high : Nat} (held : weighty low high = true) {letter : Char}
    (between : low ≤ letter.toNat ∧ letter.toNat ≤ high) :
    ignorableRanges.covers letter = false ∧ casedRanges.covers letter = true := by
  rw [weighty, List.any_eq_true] at held
  obtain ⟨range, cased, around⟩ := held
  rw [Bool.and_eq_true, Bool.and_eq_true, Nat.ble_eq, Nat.ble_eq] at around
  obtain ⟨⟨last, first⟩, apart⟩ := around
  constructor
  · rw [Ranges.covers, List.any_eq_false]
    intro other listed
    have side := List.all_eq_true.mp apart other listed
    rw [Bool.or_eq_true, Nat.blt_eq, Nat.blt_eq] at side
    rw [Bool.and_eq_true, decide_eq_true_eq, decide_eq_true_eq]
    omega
  · rw [Ranges.covers, List.any_eq_true]
    refine ⟨range, cased, ?_⟩
    rw [Bool.and_eq_true, decide_eq_true_eq, decide_eq_true_eq]
    omega

/-- The points that a run moves. -/
def CaseRun.points (run : CaseRun) : List Nat :=
  List.range' run.first ((run.last - run.first) / run.stride + 1) run.stride

theorem CaseRun.mem_points {run : CaseRun} {point : Nat} (covered : run.covers point = true) :
    point ∈ run.points := by
  obtain ⟨first, last, steps⟩ := covers_iff.mp covered
  have distance : run.stride * ((point - run.first) / run.stride) = point - run.first :=
    Nat.mul_div_cancel' (Nat.dvd_of_mod_eq_zero steps)
  rw [points, List.mem_range']
  refine ⟨(point - run.first) / run.stride, ?_, by omega⟩
  exact Nat.lt_succ_of_le (Nat.div_le_div_right (Nat.sub_le_sub_right last run.first))

/-- The run has letters of case and weight on both sides, or else each of its letters is not steady
or has an upper case that counts alike. -/
def CaseRun.keepsWeight (run : CaseRun) : Bool :=
  run.givesCharacters && weighty run.first run.last &&
      weighty (run.image run.first) (run.image run.last) ||
    run.points.all fun point =>
      !decide (Steady (Char.ofNat point)) ||
        decide (CountAlike (Char.ofNat (run.image point)) (Char.ofNat point))

theorem upperRuns_keepWeight : (upperRuns.all CaseRun.keepsWeight) = true := by
  decide +kernel

theorem Steady.countAlike_image {letter : Char} (steady : Steady letter) {run : CaseRun}
    (listed : run ∈ upperRuns) (covered : run.covers letter.toNat = true) :
    CountAlike (Char.ofNat (run.image letter.toNat)) letter := by
  have kept := List.all_eq_true.mp upperRuns_keepWeight run listed
  rw [CaseRun.keepsWeight, Bool.or_eq_true, Bool.and_eq_true, Bool.and_eq_true] at kept
  rcases kept with ⟨⟨gives, sources⟩, images⟩ | points
  · obtain ⟨first, last, _⟩ := CaseRun.covers_iff.mp covered
    have between := CaseRun.image_between covered
    rw [← CaseRun.toNat_ofNat_image gives covered] at between
    obtain ⟨weight, cased⟩ := covers_of_weighty sources ⟨first, last⟩
    obtain ⟨upperWeight, upperCased⟩ := covers_of_weighty images between
    exact ⟨upperWeight.trans weight.symm, upperCased.trans cased.symm⟩
  · have settled := List.all_eq_true.mp points _ (CaseRun.mem_points covered)
    rw [Char.ofNat_toNat, decide_eq_true steady, Bool.not_true, Bool.false_or,
      decide_eq_true_eq] at settled
    exact settled

theorem lowerLetter_ne_nil (letter : Char) : lowerLetter letter ≠ [] := by
  by_cases dotted : letter = 'İ'
  · rw [dotted]
    decide +kernel
  · exact List.ne_nil_of_length_pos (by rw [length_lowerLetter dotted]; exact Nat.one_pos)

/-- No letter gets lost on the way to lower case. -/
theorem length_le_length_flatMap_lowerLetter (letters : List Char) :
    letters.length ≤ (letters.flatMap lowerLetter).length := by
  induction letters with
  | nil => exact Nat.le_refl _
  | cons letter rest inductionHypothesis =>
    have some := List.length_pos_of_ne_nil (lowerLetter_ne_nil letter)
    rw [List.flatMap_cons, List.length_append, List.length_cons]
    omega

theorem upperLetter_ne_nil (letter : Char) : upperLetter letter ≠ [] := by
  rcases mapCase_cases upperRuns upperExpansions letter with
    ⟨entry, listed, _, mapped⟩ | ⟨run, _, _, mapped⟩ | mapped
  · have table : (upperExpansions.all fun entry => !entry.2.isEmpty) = true := by decide +kernel
    have filled := List.all_eq_true.mp table entry listed
    rw [Bool.not_eq_true', List.isEmpty_eq_false_iff] at filled
    rwa [upperLetter, mapped, ne_eq, List.map_eq_nil_iff]
  · rw [upperLetter, mapped]
    exact List.cons_ne_nil _ _
  · rw [upperLetter, mapped]
    exact List.cons_ne_nil _ _

/-- The way through upper case makes no letter shorter. -/
theorem length_lowerLetter_le (letter : Char) :
    (lowerLetter letter).length ≤ ((upperLetter letter).flatMap lowerLetter).length := by
  by_cases dotted : letter = 'İ'
  · rw [dotted]
    decide +kernel
  · rw [length_lowerLetter dotted]
    exact Nat.le_trans (List.length_pos_of_ne_nil (upperLetter_ne_nil letter))
      (length_le_length_flatMap_lowerLetter _)

/-- The upper case of a steady letter is one letter, and both count alike. -/
theorem Steady.exists_countAlike {letter : Char} (steady : Steady letter) :
    ∃ upper, upperLetter letter = [upper] ∧ CountAlike upper letter := by
  rcases mapCase_cases upperRuns upperExpansions letter with
    ⟨entry, listed, key, mapped⟩ | ⟨run, listed, covered, mapped⟩ | mapped
  · -- An expansion is too long to have a lower case of one letter.
    have table : (upperExpansions.all fun entry =>
        Nat.blt 1 entry.2.length && entry.1 != 'İ'.toNat) = true := by decide +kernel
    have row := List.all_eq_true.mp table entry listed
    rw [Bool.and_eq_true, Nat.blt_eq, bne_iff_ne] at row
    obtain ⟨long, other⟩ := row
    have plain : letter ≠ 'İ' := fun dotted => other (key.trans (congrArg Char.toNat dotted))
    have length := length_le_length_flatMap_lowerLetter (upperLetter letter)
    rw [steady, length_lowerLetter plain, upperLetter, mapped, List.length_map] at length
    exact absurd long (Nat.not_lt.mpr length)
  · exact ⟨_, mapped, steady.countAlike_image listed covered⟩
  · exact ⟨letter, mapped, rfl, rfl⟩

/-- A letter that is its own upper case is steady. -/
theorem steady_of_upperLetter_eq {letter : Char} (same : upperLetter letter = [letter]) :
    Steady letter := by
  rw [Steady, same, List.flatMap_singleton]

theorem steady_of_ascii {letter : Char} (ascii : letter.toNat < 128) : Steady letter := by
  rcases mapCase_cases upperRuns upperExpansions letter with
    ⟨entry, listed, key, _⟩ | ⟨run, listed, covered, _⟩ | same
  · have table : (upperExpansions.all fun entry => Nat.ble 128 entry.1) = true := by decide +kernel
    have beyond := Nat.le_of_ble_eq_true (List.all_eq_true.mp table entry listed)
    omega
  · have table : (upperRuns.all fun run =>
        Nat.ble 128 run.first || run.first == 97 && run.last == 122) = true := by decide +kernel
    have small : ((List.range' 97 26).all fun point =>
        decide (Steady (Char.ofNat point))) = true := by decide +kernel
    obtain ⟨first, last, _⟩ := CaseRun.covers_iff.mp covered
    have row := List.all_eq_true.mp table run listed
    rw [Bool.or_eq_true, Bool.and_eq_true, Nat.ble_eq, beq_iff_eq, beq_iff_eq] at row
    have member : letter.toNat ∈ List.range' 97 26 := by
      rw [List.mem_range'_1]
      omega
    have steady := List.all_eq_true.mp small letter.toNat member
    rwa [Char.ofNat_toNat, decide_eq_true_eq] at steady
  · exact steady_of_upperLetter_eq same

/-- A sharp s, a micro sign, a long s and a dotless i are in lower case, and none of them is the
lower case of its upper case. -/
example : ¬ Steady 'ß' ∧ ¬ Steady 'µ' ∧ ¬ Steady 'ſ' ∧ ¬ Steady 'ı' := by
  decide +kernel

end TreeSchema.Text
