/-
This file says which part of a path is its extension. A path has a directory, which is
empty or ends with a separator, then a stem without a dot, then a tail that is empty or
starts with a dot, and neither stem nor tail holds a separator. There is exactly one way
to take a path apart like this: the last separator says where the directory ends, and the
first dot behind it where the stem ends. The extension is the tail, however it is searched
for: from the end and from the front with both slashes as separators, or with all slashes
made equal first. What stands before a separator therefore has no part in it.
-/
import Mathlib.Data.List.Basic
import Mathlib.Data.List.TakeWhile
import TreeSchema.Verification.Extension

namespace TreeSchema

/-- A path in three parts. -/
structure PathParts where
  directory : List Char
  stem : List Char
  tail : List Char

/-- The parts make up the path, and each of them is of its kind. -/
structure PathParts.Of (parts : PathParts) (path : List Char) : Prop where
  whole : path = parts.directory ++ (parts.stem ++ parts.tail)
  /-- A directory that is not empty ends with a separator. -/
  closed : parts.directory = [] ∨
    ∃ front separator, isSeparator separator = true ∧ parts.directory = front ++ [separator]
  segment : ∀ character ∈ parts.stem ++ parts.tail, isSeparator character = false
  plain : '.' ∉ parts.stem
  /-- A tail that is not empty starts with a dot. -/
  dotted : parts.tail = [] ∨ parts.tail.head? = some '.'

/-! ### Single scans -/

theorem lastSegment_of_segment {name : List Char}
    (segment : ∀ character ∈ name, isSeparator character = false) : lastSegment name = name := by
  have all : ∀ character ∈ name.reverse, (!isSeparator character) = true := by
    intro character member
    rw [segment character (List.mem_reverse.mp member)]
    rfl
  rw [lastSegment, List.takeWhile_eq_self_iff.mpr all, List.reverse_reverse]

/-- The part from the first dot on. -/
theorem dropWhile_stem {stem tail : List Char} (plain : '.' ∉ stem)
    (dotted : tail = [] ∨ tail.head? = some '.') :
    (stem ++ tail).dropWhile (· != '.') = tail := by
  have passed : ∀ character ∈ stem, (character != '.') = true := by
    intro character member
    rw [bne_iff_ne]
    rintro rfl
    exact plain member
  rw [List.dropWhile_append_of_pos passed]
  rcases dotted with rfl | starts
  · rfl
  · obtain ⟨rest, rfl⟩ := List.head?_eq_some_iff.mp starts
    rfl

/-- The first dot stands where the stem ends. -/
theorem fromFirstDot_stem {stem tail : List Char} (plain : '.' ∉ stem)
    (dotted : tail = [] ∨ tail.head? = some '.') : fromFirstDot (stem ++ tail) = tail := by
  unfold fromFirstDot
  rcases dotted with rfl | starts
  · rw [List.append_nil, List.idxOf?_eq_none_iff.mpr plain]
  · obtain ⟨rest, rfl⟩ := List.head?_eq_some_iff.mp starts
    have first : (stem ++ '.' :: rest).idxOf? '.' = some stem.length := by
      rw [List.idxOf?_eq_some_iff]
      refine ⟨by simp, by simp, fun place before => ?_⟩
      rw [List.getElem_append_left before]
      intro dot
      exact plain (dot ▸ List.getElem_mem before)
    rw [first]
    exact List.drop_left

theorem behindLastSlash_append_slash (front name : List Char) :
    behindLastSlash (front ++ '/' :: name) = behindLastSlash name := by
  have pieces := List.splitOnP_append_cons front name (p := (· == '/')) (beq_self_eq_true '/')
  rw [behindLastSlash, List.splitOn, pieces,
    List.getLast?_append_of_ne_nil _ (List.splitOnP_ne_nil _ name)]
  rfl

theorem behindLastSlash_of_slashless {name : List Char} (slashless : '/' ∉ name) :
    behindLastSlash name = name := by
  have none : ∀ character ∈ name, (character == '/') = false := by
    intro character member
    rw [beq_eq_false_iff_ne]
    rintro rfl
    exact slashless member
  rw [behindLastSlash, List.splitOn, List.splitOnP_eq_singleton none]
  rfl

/-- In one segment there is nothing to make equal. -/
theorem withSlashes_of_segment {name : List Char}
    (segment : ∀ character ∈ name, isSeparator character = false) : withSlashes name = name := by
  refine (List.map_congr_left fun character member => if_neg ?_).trans (List.map_id' _)
  rintro rfl
  exact Bool.noConfusion (segment '\\' member)

theorem withSlashes_append_separator {separator : Char} (isSlash : isSeparator separator = true)
    (front name : List Char) :
    withSlashes (front ++ separator :: name) = withSlashes front ++ '/' :: withSlashes name := by
  have slash : (if separator = '\\' then '/' else separator) = '/' := by
    rw [isSeparator, Bool.or_eq_true, beq_iff_eq, beq_iff_eq] at isSlash
    rcases isSlash with rfl | rfl <;> rfl
  rw [withSlashes, List.map_append, List.map_cons, slash]
  rfl

namespace PathParts.Of

variable {path : List Char} {parts : PathParts}

/-- The last segment is the stem with the tail. -/
theorem lastSegment_eq (taken : parts.Of path) :
    lastSegment path = parts.stem ++ parts.tail := by
  rw [taken.whole]
  rcases taken.closed with empty | ⟨front, separator, isSlash, ends⟩
  · rw [empty, List.nil_append, lastSegment_of_segment taken.segment]
  · rw [ends, List.append_assoc, List.singleton_append, lastSegment_append_separator isSlash,
      lastSegment_of_segment taken.segment]

theorem extensionList_eq (taken : parts.Of path) : extensionList path = parts.tail := by
  rw [extensionList, taken.lastSegment_eq, dropWhile_stem taken.plain taken.dotted]

/-- The scans over the whole path end with the tail as well. -/
theorem scannedExtension_eq (taken : parts.Of path) : scannedExtension path = parts.tail := by
  have slashless : '/' ∉ parts.stem ++ parts.tail :=
    fun member => Bool.noConfusion (taken.segment '/' member)
  have last : behindLastSlash (withSlashes path) = parts.stem ++ parts.tail := by
    rw [taken.whole]
    rcases taken.closed with empty | ⟨front, separator, isSlash, ends⟩
    · rw [empty, List.nil_append, withSlashes_of_segment taken.segment,
        behindLastSlash_of_slashless slashless]
    · rw [ends, List.append_assoc, List.singleton_append, withSlashes_append_separator isSlash,
        behindLastSlash_append_slash, withSlashes_of_segment taken.segment,
        behindLastSlash_of_slashless slashless]
  rw [scannedExtension, last, fromFirstDot_stem taken.plain taken.dotted]

/-- A path is taken apart in one way only. -/
theorem unique {other : PathParts} (taken : parts.Of path) (takenOther : other.Of path) :
    parts = other := by
  have tail : parts.tail = other.tail :=
    taken.extensionList_eq.symm.trans takenOther.extensionList_eq
  have segment : parts.stem ++ parts.tail = other.stem ++ other.tail :=
    taken.lastSegment_eq.symm.trans takenOther.lastSegment_eq
  have stem : parts.stem = other.stem := by
    rw [tail] at segment
    exact List.append_cancel_right segment
  have directory : parts.directory = other.directory := by
    have whole := taken.whole.symm.trans takenOther.whole
    rw [segment] at whole
    exact List.append_cancel_right whole
  obtain ⟨_, _, _⟩ := parts
  obtain ⟨_, _, _⟩ := other
  exact (PathParts.mk.injEq ..).mpr ⟨directory, stem, tail⟩

end PathParts.Of

/-- Every path can be taken apart. -/
theorem exists_pathParts (path : List Char) : ∃ parts : PathParts, parts.Of path := by
  let front := path.reverse.dropWhile fun character => !isSeparator character
  have whole : path = front.reverse ++ lastSegment path := by
    rw [lastSegment, ← List.reverse_append, List.takeWhile_append_dropWhile, List.reverse_reverse]
  have cut : (lastSegment path).takeWhile (· != '.') ++ extensionList path = lastSegment path :=
    List.takeWhile_append_dropWhile
  refine ⟨⟨front.reverse, (lastSegment path).takeWhile (· != '.'), extensionList path⟩, ?whole,
    ?closed, ?segment, ?plain, ?dotted⟩
  case whole =>
    rw [cut]
    exact whole
  case closed =>
    cases ends : front with
    | nil => exact Or.inl rfl
    | cons separator rest =>
      have found : path.reverse.find? isSeparator = some separator := by
        rw [List.find?_eq_head?_dropWhile_not]
        exact congrArg List.head? ends
      exact Or.inr ⟨rest.reverse, separator, List.find?_some found, List.reverse_cons⟩
  case segment =>
    rw [cut]
    intro character member
    have passed := List.mem_takeWhile_imp (List.mem_reverse.mp member)
    rwa [Bool.not_eq_true'] at passed
  case plain =>
    intro member
    have passed := List.mem_takeWhile_imp member
    exact bne_iff_ne.mp passed rfl
  case dotted =>
    cases starts : extensionList path with
    | nil => exact Or.inl rfl
    | cons first rest =>
      have found : (lastSegment path).find? (· == '.') = some first := by
        rw [List.find?_eq_head?_dropWhile_not]
        exact congrArg List.head? starts
      have dot : first = '.' := beq_iff_eq.mp (List.find?_some found :)
      rw [dot]
      exact Or.inr rfl

/-- Every path is taken apart in exactly one way, and its extension is the tail; so what stands
before a separator, dots and other separators included, does not change the extension. -/
theorem extensionOf_eq_tail (path : String) :
    (∃! parts : PathParts, parts.Of path.toList) ∧
      (∀ parts : PathParts, parts.Of path.toList →
        (extensionOf path).toList = parts.tail ∧ scannedExtension path.toList = parts.tail) ∧
      ∀ (directory : String) (separator : Char), isSeparator separator = true →
        extensionOf (directory ++ String.singleton separator ++ path) = extensionOf path := by
  refine ⟨?apart, fun parts taken => ⟨?_, taken.scannedExtension_eq⟩, ?_⟩
  case apart =>
    obtain ⟨parts, taken⟩ := exists_pathParts path.toList
    exact ⟨parts, taken, fun other takenOther => takenOther.unique taken⟩
  · rw [extensionOf, String.toList_ofList, taken.extensionList_eq]
  · intro directory separator isSlash
    rw [extensionOf, extensionOf, extensionList, extensionList, String.toList_append,
      String.toList_append, String.toList_singleton, List.append_assoc, List.singleton_append,
      lastSegment_append_separator isSlash]

/-- A directory with a dot of its own, and an extension with two dots. -/
theorem extensionOf_eq_tail_archive :
    PathParts.Of ⟨"dir.v2\\".toList, "archive".toList, ".tar.ghdr".toList⟩
        "dir.v2\\archive.tar.ghdr".toList ∧
      (extensionOf "dir.v2\\archive.tar.ghdr").toList = ".tar.ghdr".toList ∧
      scannedExtension "dir.v2\\archive.tar.ghdr".toList = ".tar.ghdr".toList ∧
      extensionOf ("dir.v2" ++ String.singleton '\\' ++ "archive.tar.ghdr") =
        extensionOf "archive.tar.ghdr" := by
  have taken : PathParts.Of ⟨"dir.v2\\".toList, "archive".toList, ".tar.ghdr".toList⟩
      "dir.v2\\archive.tar.ghdr".toList :=
    ⟨rfl, Or.inr ⟨"dir.v2".toList, '\\', rfl, rfl⟩, by simp [isSeparator], by decide, Or.inr rfl⟩
  obtain ⟨single, scanned⟩ := (extensionOf_eq_tail _).2.1 _ taken
  exact ⟨taken, single, scanned, (extensionOf_eq_tail _).2.2 "dir.v2" '\\' rfl⟩

end TreeSchema
