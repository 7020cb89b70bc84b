/-
This file reads a JSON text as a value. Every step leaves a shorter rest, so
reading ends on every text. Beyond the standard, the words for the doubles that
no digits spell are read, and of entries with one key the last one counts, in
the place of the first.
-/
import TreeSchema.Json.Quoted
import TreeSchema.Json.Number

namespace TreeSchema.Json

/-! ### Blanks -/

def isBlank (character : Char) : Bool :=
  character == ' ' || character == '\t' || character == '\n' || character == '\r'

def skipBlank (text : List Char) : List Char :=
  text.dropWhile isBlank

theorem skipBlank_length (text : List Char) : (skipBlank text).length ≤ text.length :=
  (List.dropWhile_suffix isBlank).length_le

theorem skipBlank_cons {character : Char} (solid : isBlank character = false) (rest : List Char) :
    skipBlank (character :: rest) = character :: rest := by
  simp [skipBlank, solid]

/-! ### Words -/

/-- The values that are written as words. -/
def words : List (String × Value) :=
  [("null", .null), ("true", .bool true), ("false", .bool false), ("NaN", .real .notNumber),
   ("Infinity", .real (.infinite false)), ("-Infinity", .real (.infinite true))]

/-- The text after a word, if the text starts with it. -/
def dropWord : (word text : List Char) → Option (List Char)
  | [], text => some text
  | _ :: _, [] => none
  | letter :: word, character :: text => if letter = character then dropWord word text else none

/-- The value of the word at the start of a text, and the text after it. -/
def readWord (text : List Char) : Option (Value × List Char) :=
  words.findSome? fun entry => (dropWord entry.1.toList text).map fun rest => (entry.2, rest)

theorem dropWord_length {word text rest : List Char} (dropped : dropWord word text = some rest) :
    text.length = word.length + rest.length := by
  induction word generalizing text with
  | nil =>
    cases dropped
    simp
  | cons letter word inductionHypothesis =>
    cases text with
    | nil => cases dropped
    | cons character text =>
      rw [dropWord] at dropped
      split at dropped
      · have := inductionHypothesis dropped
        simp only [List.length_cons]
        omega
      · cases dropped

theorem readWord_length {text rest : List Char} {value : Value}
    (read : readWord text = some (value, rest)) : rest.length < text.length := by
  obtain ⟨entry, member, found⟩ := List.exists_of_findSome?_eq_some read
  obtain ⟨after, dropped, same⟩ := Option.map_eq_some_iff.mp found
  have length := dropWord_length dropped
  have positive : 0 < entry.1.toList.length := by
    simp only [words, List.mem_cons, List.not_mem_nil, or_false] at member
    rcases member with rfl | rfl | rfl | rfl | rfl | rfl <;> decide
  simp only [Prod.mk.injEq] at same
  obtain ⟨_, rfl⟩ := same
  omega

/-! ### Values -/

/-- What was read from the start of a text, and the shorter text after it. -/
structure Taken (Content : Type) (text : List Char) where
  content : Content
  rest : List Char
  shorter : rest.length < text.length

/-- The entries of a record in order of first appearance, each with its last value. -/
def collect (entries : List (String × Value)) : List (String × Value) :=
  entries.foldl (fun collected entry => Value.insert entry.1 entry.2 collected) []

/-- A value that is neither quoted nor bracketed. -/
def readPlain (text : List Char) : Except Stop (Taken Value text) :=
  match word : readWord text with
  | some (value, rest) => .ok ⟨value, rest, readWord_length word⟩
  | none =>
    match number : readNumber text with
    | some (value, rest) => .ok ⟨value, rest, readNumber_length number⟩
    | none => .error ⟨.noValue, text⟩

/-- The key of an entry, up to the start of the entry's value. -/
def readKey (text : List Char) : Except Stop (Taken String text) :=
  match text with
  | [] => .error ⟨.noPropertyName, text⟩
  | character :: rest =>
    if character = quote then
      match key : readText text rest with
      | .error stop => .error stop
      | .ok (characters, afterKey) =>
        match colon : skipBlank afterKey with
        | ':' :: afterColon =>
          .ok ⟨String.ofList characters, skipBlank afterColon, by
            have first := readText_length key
            have second := skipBlank_length afterKey
            have third := skipBlank_length afterColon
            rw [colon] at second
            simp only [List.length_cons] at second ⊢
            omega⟩
        | other => .error ⟨.noColon, other⟩
    else .error ⟨.noPropertyName, text⟩

mutual

/-- The value at the start of a text. -/
def readValue (text : List Char) : Except Stop (Taken Value text) :=
  match text with
  | [] => .error ⟨.noValue, []⟩
  | character :: rest =>
    if character = quote then
      match quoted : readText (character :: rest) rest with
      | .error stop => .error stop
      | .ok (characters, after) =>
        .ok ⟨.text (String.ofList characters), after,
          Nat.lt_succ_of_lt (readText_length quoted)⟩
    else if character = '\x7b' then
      have inside := skipBlank_length rest
      match body : skipBlank rest with
      | '\x7d' :: after =>
        .ok ⟨.record [], after, by
          rw [body] at inside
          simp only [List.length_cons] at inside ⊢
          omega⟩
      | entries =>
        match readEntries entries with
        | .error stop => .error stop
        | .ok taken =>
          .ok ⟨.record (collect taken.content), taken.rest, by
            have := taken.shorter
            rw [body] at inside
            simp only [List.length_cons]
            omega⟩
    else if character = '[' then
      have inside := skipBlank_length rest
      match body : skipBlank rest with
      | ']' :: after =>
        .ok ⟨.list [], after, by
          rw [body] at inside
          simp only [List.length_cons] at inside ⊢
          omega⟩
      | items =>
        match readItems items with
        | .error stop => .error stop
        | .ok taken =>
          .ok ⟨.list taken.content, taken.rest, by
            have := taken.shorter
            rw [body] at inside
            simp only [List.length_cons]
            omega⟩
    else readPlain (character :: rest)
termination_by (text.length, 0)
decreasing_by
  all_goals
    rw [body] at inside
    simp only [Prod.lex_def, List.length_cons]
    omega

/-- The items of a list up to its closing bracket; there is at least one. -/
def readItems (text : List Char) : Except Stop (Taken (List Value) text) :=
  match readValue text with
  | .error stop => .error stop
  | .ok ⟨value, rest, shorter⟩ =>
    have following := skipBlank_length rest
    match next : skipBlank rest with
    | ']' :: after =>
      .ok ⟨[value], after, by
        rw [next] at following
        simp only [List.length_cons] at following
        omega⟩
    | ',' :: after =>
      match readItems (skipBlank after) with
      | .error stop => .error stop
      | .ok taken =>
        .ok ⟨value :: taken.content, taken.rest, by
          have := taken.shorter
          have := skipBlank_length after
          rw [next] at following
          simp only [List.length_cons] at following
          omega⟩
    | other => .error ⟨.noComma, other⟩
termination_by (text.length, 1)
decreasing_by
  · simp [Prod.lex_def]
  · have := skipBlank_length after
    rw [next] at following
    simp only [Prod.lex_def, List.length_cons] at following ⊢
    omega

/-- The entries of a record up to its closing brace; there is at least one. -/
def readEntries (text : List Char) : Except Stop (Taken (List (String × Value)) text) :=
  match readKey text with
  | .error stop => .error stop
  | .ok ⟨key, valueText, keyShorter⟩ =>
    match readValue valueText with
    | .error stop => .error stop
    | .ok ⟨value, rest, shorter⟩ =>
      have following := skipBlank_length rest
      match next : skipBlank rest with
      | '\x7d' :: after =>
        .ok ⟨[(key, value)], after, by
          rw [next] at following
          simp only [List.length_cons] at following
          omega⟩
      | ',' :: after =>
        match readEntries (skipBlank after) with
        | .error stop => .error stop
        | .ok taken =>
          .ok ⟨(key, value) :: taken.content, taken.rest, by
            have := taken.shorter
            have := skipBlank_length after
            rw [next] at following
            simp only [List.length_cons] at following
            omega⟩
      | other => .error ⟨.noComma, other⟩
termination_by (text.length, 1)
decreasing_by
  · simp only [Prod.lex_def]
    omega
  · have := skipBlank_length after
    rw [next] at following
    simp only [Prod.lex_def, List.length_cons] at following ⊢
    omega

end

/-- The value of a whole text, blanks around it aside. -/
def readList (text : List Char) : Except Fault Value :=
  match text with
  | '\uFEFF' :: _ => .error (.ofStop text ⟨.byteOrderMark, text⟩)
  | _ =>
    match readValue (skipBlank text) with
    | .error stop => .error (.ofStop text stop)
    | .ok taken =>
      match skipBlank taken.rest with
      | [] => .ok taken.content
      | rest => .error (.ofStop text ⟨.extraData, rest⟩)

/-- The value of a whole text, blanks around it aside. -/
def read (text : String) : Except Fault Value :=
  readList text.toList

end TreeSchema.Json
