/-
This file reads outlines from declared values. A record is a list, or a text, of two
or three members: the title, the data, and the outline of its children, which counts
only if it holds something. A text stands for its characters and a record of entries
for its keys wherever an outline is expected. A record whose only key is `node` stands
for a node that is ready, with the title given; it is a title or data like any other
value, but no record and no outline. The first fault in reading order counts, those
of the children before those of the next record.
-/
import TreeSchema.Document.Outline
import TreeSchema.Value.Display

namespace TreeSchema.Outline

/-! ### Ready nodes -/

mutual

/-- A value as it stands inside a list, ready nodes included. -/
def shown : Value → String
  | .list items => "[" ++ ", ".intercalate (shownItems items) ++ "]"
  | .record [("node", title)] => "ParsedNode(title=" ++ title.shown ++ ", data='', level=0)"
  | value => value.shown

def shownItems : List Value → List String
  | [] => []
  | item :: rest => shown item :: shownItems rest

end

/-- A value as a title or as data: a ready node stands as its line. -/
def display : Value → String
  | .record [("node", title)] => title.display ++ ":"
  | .list items => shown (.list items)
  | value => value.display

/-- The name of the kind of a value, ready nodes included. -/
def kind : Value → String
  | .record [("node", _)] => "ParsedNode"
  | value => value.kind

/-! ### Reading -/

/-- Why a value is no outline. -/
inductive Fault where
  | notIterable (value : Value)
  | readyNode
  | noLength (value : Value)
  | badLength (length : Nat) (record : Value)
  | noFirstItem
  deriving Repr, Inhabited

def Fault.message : Fault → String
  | notIterable value => "'" ++ kind value ++ "' object is not iterable"
  | readyNode => "build_outline expects (title, data[, children]) records, not ParsedNode"
  | noLength value => "object of type '" ++ kind value ++ "' has no len()"
  | badLength length record =>
    "outline record must have 2 or 3 items, got " ++ toString length ++ ": " ++ shown record
  | noFirstItem => "0"

/-- The title and the data of a record that is a text. A third character would have to be an
outline, which a single character never is. -/
def ofRecordText (record : String) : Except Fault (String × String) :=
  match record.toList with
  | [title, data] => .ok (String.singleton title, String.singleton data)
  | [_, _, children] => .error (.badLength 1 (.text (String.singleton children)))
  | characters => .error (.badLength characters.length (.text record))

/-- The outline of records that are texts. -/
def ofTexts : List String → Except Fault Outline
  | [] => .ok done
  | record :: rest =>
    match ofRecordText record with
    | .error fault => .error fault
    | .ok (title, data) => (ofTexts rest).map (entry title data done)

/-- The fault of a record that has entries in place of items. -/
def entriesFault (entries : List (String × Value)) : Fault :=
  match entries with
  | [("node", _)] => .readyNode
  | _ =>
    if entries.length = 2 ∨ entries.length = 3 then .noFirstItem
    else .badLength entries.length (.record entries)

mutual

/-- The outline that a value declares. -/
def ofForm : Value → Except Fault Outline
  | .list records => ofRecords records
  | .text characters => ofTexts (characters.toList.map String.singleton)
  | .record [("node", title)] => .error (.notIterable (.record [("node", title)]))
  | .record entries => ofTexts (entries.map Prod.fst)
  | value => .error (.notIterable value)

/-- The outline of a list of records. -/
def ofRecords : List Value → Except Fault Outline
  | [] => .ok done
  | .list [title, data] :: rest => (ofRecords rest).map (entry (display title) (display data) done)
  | .list [title, data, children] :: rest =>
    if children.isGiven then
      match ofForm children with
      | .error fault => .error fault
      | .ok below => (ofRecords rest).map (entry (display title) (display data) below)
    else (ofRecords rest).map (entry (display title) (display data) done)
  | .list items :: _ => .error (.badLength items.length (.list items))
  | .text record :: rest =>
    match ofRecordText record with
    | .error fault => .error fault
    | .ok (title, data) => (ofRecords rest).map (entry title data done)
  | .record entries :: _ => .error (entriesFault entries)
  | value :: _ => .error (.noLength value)

end

end TreeSchema.Outline
