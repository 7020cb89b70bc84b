/-
This file reads the written form of a template with a position that moves through the text.
A loop looks at the character at the position and moves on by one character, by a whole field
or by the opening of a group, whose body is read by the same loop and tells where to go on.
What was read is kept beside the position: the elements, and the characters of a literal that
may still grow. The loop makes as many turns as it may, and it has no result if these are too
few. Nothing is said here about how many turns are needed.
-/
import TreeSchema.Template.Reader

namespace TreeSchema.Template

/-- The elements of a template and then those of another one. -/
def append : Template → Template → Template
  | done, following => following
  | literal text rest, following => literal text (rest.append following)
  | field name rest, following => field name (rest.append following)
  | integer rest, following => integer (rest.append following)
  | group repeated body rest, following => group repeated body (rest.append following)

/-- How far a sequence was read: the position, the elements before it, and the characters between
these and the position, which make up a literal. -/
structure Cursor where
  position : Nat
  elements : Template
  pending : List Char
  deriving DecidableEq, Repr, Inhabited

namespace Cursor

/-- At a position where nothing of a sequence was read. -/
def start (position : Nat) : Cursor := ⟨position, .done, []⟩

/-- All elements before the position. -/
def flush (cursor : Cursor) : Template :=
  if cursor.pending = [] then cursor.elements
  else cursor.elements.append (.literal cursor.pending .done)

/-- Behind one more character of a literal. -/
def keep (cursor : Cursor) (character : Char) : Cursor :=
  ⟨cursor.position + 1, cursor.elements, cursor.pending ++ [character]⟩

/-- Behind an element that is no literal and ends at the position given. -/
def add (cursor : Cursor) (element : Template) (position : Nat) : Cursor :=
  ⟨position, cursor.flush.append element, []⟩

/-- What is to be done at a cursor. -/
inductive Turn where
  | goesOn (next : Cursor)
  | opens (repeated : Bool) (inner : Nat)
  | returns (template : Template) (position : Nat)
  | raises (reason : Reason)
  deriving DecidableEq, Repr, Inhabited

/-- The first position of a character, from a position on. -/
def find (text : List Char) (character : Char) (position : Nat) : Option Nat :=
  ((text.drop position).idxOf? character).map (position + ·)

/-- At the `<` of a field. -/
def fieldTurn (text : List Char) (cursor : Cursor) : Turn :=
  match find text '>' (cursor.position + 1) with
  | none => .raises .unclosedField
  | some finish =>
    let name := text.extract (cursor.position + 1) finish
    if name = [] then .raises .emptyField
    else if name.any isBarred then .raises (.badFieldName name)
    else .goesOn (cursor.add (consField name .done) (finish + 1))

/-- At the opening of a group, which a `$` may start. -/
def groupTurn (text : List Char) (cursor : Cursor) (marked : Bool) : Turn :=
  let inner := cursor.position + if marked then 2 else 1
  if text[inner]? = some '$' then .opens true (inner + 1) else .opens marked inner

/-- What is to be done at a cursor, inside a group or outside of all groups. -/
def turn (text : List Char) (inside : Bool) (cursor : Cursor) : Turn :=
  match text[cursor.position]? with
  | none => if inside then .raises .unclosedGroup else .returns cursor.flush cursor.position
  | some character =>
    if character = '<' then fieldTurn text cursor
    else if character = '[' ∨ (character = '$' ∧ text[cursor.position + 1]? = some '[') then
      groupTurn text cursor (character == '$')
    else if character = ']' then
      if inside then .returns cursor.flush (cursor.position + 1) else .raises .strayBracket
    else if character = '>' then .raises .strayAngle
    else .goesOn (cursor.keep character)

/-- What the loop comes to at a cursor: the whole sequence with the position behind it, or why it
is refused. A turn leaves one turn fewer to the body of a group and to the turn after it. -/
def loop (text : String) : (turns : Nat) → (inside : Bool) → Cursor →
    Option (Except Fault (Template × Nat))
  | 0, _, _ => none
  | turns + 1, inside, cursor =>
    match turn text.toList inside cursor with
    | .goesOn next => loop text turns inside next
    | .opens repeated inner => do
      match ← loop text turns true (start inner) with
      | .error fault => some (.error fault)
      | .ok (body, after) =>
        if repeated ∧ body = .done then some (.error ⟨text, cursor.position, .emptyRepeatedGroup⟩)
        else loop text turns inside (cursor.add (.group repeated body .done) after)
    | .returns template position => some (.ok (template, position))
    | .raises reason => some (.error ⟨text, cursor.position, reason⟩)

end Cursor

/-- The sequence that starts at a position, and the position behind it, if the turns are enough.
Inside a group that is the one behind the closing bracket. -/
def readAt (text : String) (turns : Nat) (inside : Bool) (position : Nat) :
    Option (Except Fault (Template × Nat)) :=
  Cursor.loop text turns inside (Cursor.start position)

/-- Why a whole text is refused: a fault in a sequence, or that the sequence at its start ends at
the position given and not with the text. -/
inductive Refusal where
  | fault (found : Fault)
  | trailing (text : String) (position : Nat)
  deriving DecidableEq, Repr, Inhabited

def Refusal.message : Refusal → String
  | fault found => found.message
  | trailing text position =>
    s!"unexpected trailing input at position {position} in template {Text.quoted text}"

/-- The template that a whole text is the written form of, if the turns are enough. -/
def readWhole (text : String) (turns : Nat) : Option (Except Refusal Template) := do
  match ← readAt text turns false 0 with
  | .error fault => some (.error (.fault fault))
  | .ok (template, position) =>
    if position = text.length then some (.ok template)
    else some (.error (.trailing text position))

end TreeSchema.Template
