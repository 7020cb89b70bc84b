/-
This file finds the extension of a file path: the part of its last segment from the
first dot on. Both slashes separate segments. It is also given as three scans over the
whole path find it, one after the other.
-/

namespace TreeSchema

/-- A character that separates the segments of a path. -/
def isSeparator (character : Char) : Bool :=
  character == '/' || character == '\\'

/-- The last segment of a path. -/
def lastSegment (path : List Char) : List Char :=
  (path.reverse.takeWhile fun character => !isSeparator character).reverse

/-- The extension of a path, dot included; empty where the last segment has no dot. -/
def extensionList (path : List Char) : List Char :=
  (lastSegment path).dropWhile (· != '.')

/-- The extension of a path, dot included; empty where the last segment has no dot. -/
def extensionOf (path : String) : String :=
  String.ofList (extensionList path.toList)

/-! ### Three scans -/

/-- The path with a slash for every backslash. -/
def withSlashes (path : List Char) : List Char :=
  path.map fun character => if character = '\\' then '/' else character

/-- The last of the pieces into which the slashes split a path. -/
def behindLastSlash (path : List Char) : List Char :=
  (path.splitOn '/').getLast?.getD []

/-- The part of a name from its first dot on; empty where it has none. -/
def fromFirstDot (name : List Char) : List Char :=
  match name.idxOf? '.' with
  | some place => name.drop place
  | none => []

/-- The extension as three scans find it, one after the other. -/
def scannedExtension (path : List Char) : List Char :=
  fromFirstDot (behindLastSlash (withSlashes path))

/-! ### Behind a separator -/

theorem lastSegment_append_separator {separator : Char} (isSlash : isSeparator separator = true)
    (directory name : List Char) :
    lastSegment (directory ++ separator :: name) = lastSegment name := by
  unfold lastSegment
  rw [List.reverse_append, List.reverse_cons, List.append_assoc, List.takeWhile_append]
  split
  next whole =>
    simp [isSlash, (List.takeWhile_prefix _).eq_of_length whole]
  · rfl

end TreeSchema
