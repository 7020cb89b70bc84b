/-
This file decides whether a text has a given shape. Shapes are built from classes
of characters by sequence, choice and repetition. A text is read once, from left
to right, keeping the set of shapes that the rest of it may have, so the cost
grows with the length of the text and not with the number of ways to cut it up.
-/

namespace TreeSchema

/-- A class of characters. -/
inductive CharacterClass where
  | only (character : Char)
  | digit
  | outside (stops : List Char)
  deriving DecidableEq, Repr, Inhabited

/-- The characters of a class; digits are the ASCII ones. -/
def CharacterClass.holds : CharacterClass → Char → Bool
  | only character, candidate => candidate == character
  | digit, candidate => '0' ≤ candidate && candidate ≤ '9'
  | outside stops, candidate => !stops.contains candidate

/-- A set of texts. -/
inductive Shape where
  | empty
  | one (members : CharacterClass)
  | sequence (first second : Shape)
  | either (first second : Shape)
  | many (body : Shape)
  deriving DecidableEq, Repr, Inhabited

namespace Shape

/-- The texts that have a shape. -/
inductive Describes : Shape → List Char → Prop where
  | empty : Describes empty []
  | one {members : CharacterClass} {character : Char} (holds : members.holds character = true) :
      Describes (one members) [character]
  | sequence {first second : Shape} {front back : List Char} (left : Describes first front)
      (right : Describes second back) : Describes (sequence first second) (front ++ back)
  | eitherFirst {first second : Shape} {text : List Char} (left : Describes first text) :
      Describes (either first second) text
  | eitherSecond {first second : Shape} {text : List Char} (right : Describes second text) :
      Describes (either first second) text
  | manyDone {body : Shape} : Describes (many body) []
  | manyMore {body : Shape} {front back : List Char} (head : Describes body front)
      (tail : Describes (many body) back) : Describes (many body) (front ++ back)

/-- Whether the empty text has the shape. -/
def acceptsEmpty : Shape → Bool
  | empty => true
  | one _ => false
  | sequence first second => first.acceptsEmpty && second.acceptsEmpty
  | either first second => first.acceptsEmpty || second.acceptsEmpty
  | many _ => true

/-- A sequence of two shapes, the empty shape left out in front. -/
def followedBy : Shape → Shape → Shape
  | empty, second => second
  | first, second => sequence first second

/-- The shapes that the rest of a text may have after its first character. -/
def after (character : Char) : Shape → List Shape
  | empty => []
  | one members => if members.holds character then [empty] else []
  | sequence first second =>
    (after character first).map (followedBy · second) ++
      (if first.acceptsEmpty then after character second else [])
  | either first second => after character first ++ after character second
  | many body => (after character body).map (followedBy · (many body))

/-- A set of shapes as a list without repetitions. -/
def distinct (shapes : List Shape) : List Shape :=
  shapes.foldr List.insert []

/-- Whether a text has one of the shapes. -/
def acceptsAny : List Shape → List Char → Bool
  | shapes, [] => shapes.any acceptsEmpty
  | shapes, character :: rest => acceptsAny (distinct (shapes.flatMap (after character))) rest

/-- Whether a text has the shape. -/
def accepts (shape : Shape) (text : List Char) : Bool :=
  acceptsAny [shape] text

/-- The one text given. -/
def word : List Char → Shape
  | [] => empty
  | character :: rest => sequence (one (.only character)) (word rest)

/-- At least one occurrence. -/
def atLeastOnce (body : Shape) : Shape :=
  sequence body (many body)

/-- One occurrence or none. -/
def optional (body : Shape) : Shape :=
  either empty body

theorem mem_distinct {shape : Shape} {shapes : List Shape} :
    shape ∈ distinct shapes ↔ shape ∈ shapes := by
  induction shapes with
  | nil => simp [distinct]
  | cons first rest inductionHypothesis =>
    rw [distinct, List.foldr_cons, List.mem_insert_iff, List.mem_cons]
    exact or_congr Iff.rfl inductionHypothesis

end Shape

end TreeSchema
