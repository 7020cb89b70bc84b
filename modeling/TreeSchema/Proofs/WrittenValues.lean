/-
This file proves that a value is read as it was written, whatever its shape. The reading
of a value, of the items of a list and of the entries of a record depend on one another,
so each way to read something is first stated as a rule: what is read from the start of a
text, and what is left of it. The rules are then put together along the value. Doubles
are left aside, and so are records in which two entries have one key, of which only one
would be read back.

Written text holds no carriage return, since the one line break it uses is the newline
and texts have theirs escaped. Reading it with its line ends unified changes nothing.
-/
import TreeSchema.Proofs.WrittenTexts
import Mathlib.Data.List.Induction

namespace TreeSchema.Json

/-! ### Rules of reading -/

/-- A value is read from the start of a text, and the rest is left. -/
def Reads (text : List Char) (value : Value) (rest : List Char) : Prop :=
  ∃ shorter, readValue text = .ok ⟨value, rest, shorter⟩

/-- The items of a list are read, with its closing bracket. -/
def ReadsItems (text : List Char) (items : List Value) (rest : List Char) : Prop :=
  ∃ shorter, readItems text = .ok ⟨items, rest, shorter⟩

/-- The entries of a record are read, with its closing brace. -/
def ReadsEntries (text : List Char) (entries : List (String × Value)) (rest : List Char) : Prop :=
  ∃ shorter, readEntries text = .ok ⟨entries, rest, shorter⟩

/-- The key of an entry is read, up to the value of the entry. -/
def ReadsKey (text : List Char) (key : String) (rest : List Char) : Prop :=
  ∃ shorter, readKey text = .ok ⟨key, rest, shorter⟩

/-- A mark that follows after blanks leaves less than what it was found in. -/
theorem length_lt_of_skipBlank {text after : List Char} {mark : Char}
    (next : skipBlank text = mark :: after) : after.length < text.length := by
  have length := skipBlank_length text
  rw [next] at length
  exact length

/-! The reader keeps, at each of its choices, the equation that led there, from which its rest is
seen to be shorter. The equations that are given here are therefore met again in the branches. -/

section Rules

variable {text valueText characters rest after last : List Char} {key : String}
  {value item : Value} {items : List Value} {entries : List (String × Value)}

theorem reads_quoted (read : readText (quote :: text) text = .ok (characters, rest)) :
    Reads (quote :: text) (.text (String.ofList characters)) rest := by
  refine ⟨Nat.lt_succ_of_lt (readText_length read), ?_⟩
  rw [readValue, if_pos rfl]
  split
  next stop failed =>
    rw [read] at failed
    cases failed
  next found =>
    rw [read] at found
    cases found
    rfl

theorem readPlain_word (word : readWord text = some (value, rest)) :
    ∃ shorter, readPlain text = .ok ⟨value, rest, shorter⟩ := by
  refine ⟨readWord_length word, ?_⟩
  unfold readPlain
  split
  next found =>
    rw [word] at found
    cases found
    rfl
  next missing =>
    rw [word] at missing
    cases missing

theorem readPlain_number (noWord : readWord text = none)
    (number : readNumber text = some (value, rest)) :
    ∃ shorter, readPlain text = .ok ⟨value, rest, shorter⟩ := by
  refine ⟨readNumber_length number, ?_⟩
  unfold readPlain
  split
  next found =>
    rw [noWord] at found
    cases found
  · split
    next found =>
      rw [number] at found
      cases found
      rfl
    next missing =>
      rw [number] at missing
      cases missing

theorem reads_plain {first : Char} (plain : first ≠ quote ∧ first ≠ '\x7b' ∧ first ≠ '[')
    (read : ∃ shorter, readPlain (first :: text) = .ok ⟨value, rest, shorter⟩) :
    Reads (first :: text) value rest := by
  rw [Reads, readValue, if_neg plain.1, if_neg plain.2.1, if_neg plain.2.2]
  exact read

theorem reads_emptyList (rest : List Char) : Reads ('[' :: ']' :: rest) (.list []) rest := by
  refine ⟨by simp only [List.length_cons]; omega, ?_⟩
  rw [readValue, if_neg (by decide), if_neg (by decide), if_pos rfl]
  rfl

theorem reads_list (opened : (skipBlank text).head? ≠ some ']')
    (read : ReadsItems (skipBlank text) items rest) : Reads ('[' :: text) (.list items) rest := by
  obtain ⟨shorter, read⟩ := read
  refine ⟨Nat.lt_succ_of_lt (Nat.lt_of_lt_of_le shorter (skipBlank_length text)), ?_⟩
  rw [readValue, if_neg (by decide), if_neg (by decide), if_pos rfl]
  dsimp only
  split
  next closed => exact absurd (congrArg List.head? closed) opened
  · rw [read]

theorem readsItems_last (read : Reads text item rest) (closed : skipBlank rest = ']' :: after) :
    ReadsItems text [item] after := by
  obtain ⟨shorter, read⟩ := read
  refine ⟨Nat.lt_trans (length_lt_of_skipBlank closed) shorter, ?_⟩
  rw [readItems, read]
  dsimp only
  split
  next same =>
    rw [closed] at same
    cases same
    rfl
  next same =>
    rw [closed] at same
    cases same
  next notClosed _ => exact (notClosed after closed).elim

theorem readsItems_more (read : Reads text item rest) (comma : skipBlank rest = ',' :: after)
    (more : ReadsItems (skipBlank after) items last) : ReadsItems text (item :: items) last := by
  obtain ⟨shorter, read⟩ := read
  obtain ⟨moreShorter, more⟩ := more
  have afterComma := length_lt_of_skipBlank comma
  have afterBlank := skipBlank_length after
  refine ⟨by omega, ?_⟩
  rw [readItems, read]
  dsimp only
  split
  next same =>
    rw [comma] at same
    cases same
  next same =>
    rw [comma] at same
    cases same
    rw [more]
  next notComma => exact (notComma after comma).elim

theorem readsKey_quoted
    (read : readText (quote :: text) text = .ok (characters, after))
    (colon : skipBlank after = ':' :: rest) :
    ReadsKey (quote :: text) (String.ofList characters) (skipBlank rest) := by
  have afterKey := readText_length read
  have afterColon := length_lt_of_skipBlank colon
  have afterBlank := skipBlank_length rest
  refine ⟨by simp only [List.length_cons]; omega, ?_⟩
  rw [readKey, if_pos rfl]
  split
  next failed =>
    rw [read] at failed
    cases failed
  next found =>
    rw [read] at found
    cases found
    split
    next same =>
      rw [colon] at same
      cases same
      rfl
    next notColon => exact (notColon rest colon).elim

theorem reads_emptyRecord (rest : List Char) :
    Reads ('\x7b' :: '\x7d' :: rest) (.record []) rest := by
  refine ⟨by simp only [List.length_cons]; omega, ?_⟩
  rw [readValue, if_neg (by decide), if_pos rfl]
  rfl

theorem reads_record (opened : (skipBlank text).head? ≠ some '\x7d')
    (read : ReadsEntries (skipBlank text) entries rest) :
    Reads ('\x7b' :: text) (.record (collect entries)) rest := by
  obtain ⟨shorter, read⟩ := read
  refine ⟨Nat.lt_succ_of_lt (Nat.lt_of_lt_of_le shorter (skipBlank_length text)), ?_⟩
  rw [readValue, if_neg (by decide), if_pos rfl]
  dsimp only
  split
  next closed => exact absurd (congrArg List.head? closed) opened
  · rw [read]

theorem readsEntries_last (readKey : ReadsKey text key valueText)
    (read : Reads valueText value rest) (closed : skipBlank rest = '\x7d' :: after) :
    ReadsEntries text [(key, value)] after := by
  obtain ⟨keyShorter, readKey⟩ := readKey
  obtain ⟨shorter, read⟩ := read
  have afterBrace := length_lt_of_skipBlank closed
  refine ⟨by omega, ?_⟩
  rw [readEntries, readKey]
  dsimp only
  rw [read]
  dsimp only
  split
  next same =>
    rw [closed] at same
    cases same
    rfl
  next same =>
    rw [closed] at same
    cases same
  next notClosed _ => exact (notClosed after closed).elim

theorem readsEntries_more (readKey : ReadsKey text key valueText)
    (read : Reads valueText value rest) (comma : skipBlank rest = ',' :: after)
    (more : ReadsEntries (skipBlank after) entries last) :
    ReadsEntries text ((key, value) :: entries) last := by
  obtain ⟨keyShorter, readKey⟩ := readKey
  obtain ⟨shorter, read⟩ := read
  obtain ⟨moreShorter, more⟩ := more
  have afterComma := length_lt_of_skipBlank comma
  have afterBlank := skipBlank_length after
  refine ⟨by omega, ?_⟩
  rw [readEntries, readKey]
  dsimp only
  rw [read]
  dsimp only
  split
  next same =>
    rw [comma] at same
    cases same
  next same =>
    rw [comma] at same
    cases same
    rw [more]
  next notComma => exact (notComma after comma).elim

end Rules

/-! ### Values that are read as they were written -/

/-- A value without doubles, in which no record has two entries with one key. -/
inductive Plain : Value → Prop where
  | null : Plain .null
  | bool (value : Bool) : Plain (.bool value)
  | integer (value : Int) : Plain (.integer value)
  | text (value : String) : Plain (.text value)
  | list {items : List Value} (plain : ∀ item ∈ items, Plain item) : Plain (.list items)
  | record {entries : List (String × Value)} (distinct : (entries.map Prod.fst).Nodup)
    (plain : ∀ entry ∈ entries, Plain entry.2) : Plain (.record entries)

theorem insert_of_not_mem {key : String} {entries : List (String × Value)}
    (new : key ∉ entries.map Prod.fst) (value : Value) :
    Value.insert key value entries = entries ++ [(key, value)] := by
  induction entries with
  | nil => rfl
  | cons entry rest inductionHypothesis =>
    rw [List.map_cons, List.mem_cons, not_or] at new
    rw [Value.insert, if_neg (Ne.symm new.1), inductionHypothesis new.2, List.cons_append]

/-- Entries with distinct keys are collected as they are. -/
theorem collect_eq_self {entries : List (String × Value)}
    (distinct : (entries.map Prod.fst).Nodup) : collect entries = entries := by
  induction entries using List.reverseRecOn with
  | nil => rfl
  | append_singleton entries entry inductionHypothesis =>
    rw [List.map_append, List.nodup_append] at distinct
    have new : entry.1 ∉ entries.map Prod.fst := fun member =>
      distinct.2.2 _ member entry.1 (List.mem_singleton_self _) rfl
    have collected := inductionHypothesis distinct.1
    rw [collect] at collected ⊢
    rw [List.foldl_append, collected]
    exact insert_of_not_mem new entry.2

/-! ### Starts and ends -/

theorem skipBlank_newLine (depth : Nat) (text : List Char) :
    skipBlank (newLine depth ++ text) = skipBlank text := by
  refine List.dropWhile_append_of_pos fun character member => ?_
  rcases List.mem_cons.mp member with rfl | member
  · rfl
  · rw [List.eq_of_mem_replicate member]
    rfl

theorem endsNumber_newLine (depth : Nat) (text : List Char) :
    EndsNumber (newLine depth ++ text) := by
  intro next first
  cases first
  decide

theorem endsNumber_comma (text : List Char) : EndsNumber (',' :: text) := by
  intro next first
  cases first
  decide

/-- A character that can stand at the start of a whole number. -/
def startsNumeral (character : Char) : Bool :=
  character == '-' || Text.isAsciiDigit character

theorem ne_of_startsNumeral {first other : Char} (numeral : startsNumeral first = true)
    (different : startsNumeral other = false) : first ≠ other := by
  intro same
  rw [same, different] at numeral
  exact Bool.noConfusion numeral

theorem isBlank_of_startsNumeral {first : Char} (numeral : startsNumeral first = true) :
    isBlank first = false := by
  have different {other : Char} (apart : startsNumeral other = false) : first ≠ other :=
    ne_of_startsNumeral numeral apart
  simp only [isBlank, Bool.or_eq_false_iff, beq_eq_false_iff_ne]
  exact ⟨⟨⟨different rfl, different rfl⟩, different rfl⟩, different rfl⟩

theorem exists_writeInteger (value : Int) :
    ∃ first text, writeInteger value = first :: text ∧ startsNumeral first = true := by
  unfold writeInteger
  by_cases negative : value < 0
  · rw [if_pos negative]
    exact ⟨'-', _, rfl, rfl⟩
  · obtain ⟨first, others, digits, digit, _⟩ := exists_toDigits value.natAbs
    rw [if_neg negative, digits]
    refine ⟨first, others, rfl, ?_⟩
    rw [startsNumeral, digit, Bool.or_true]

/-- The text of a value starts with a character that is no blank, closes no list and marks no byte
order. -/
theorem exists_writeValue {value : Value} (plain : Plain value) (depth : Nat) :
    ∃ first text, writeValue depth value = first :: text ∧ isBlank first = false ∧
      first ≠ ']' ∧ first ≠ '\uFEFF' := by
  cases plain with
  | null => exact ⟨'n', _, rfl, by decide⟩
  | bool value =>
    cases value with
    | true => exact ⟨'t', _, rfl, by decide⟩
    | false => exact ⟨'f', _, rfl, by decide⟩
  | integer value =>
    obtain ⟨first, text, written, numeral⟩ := exists_writeInteger value
    rw [writeValue]
    exact ⟨first, text, written, isBlank_of_startsNumeral numeral,
      ne_of_startsNumeral numeral rfl, ne_of_startsNumeral numeral rfl⟩
  | text value => exact ⟨quote, _, by rw [writeValue, writeText], by decide⟩
  | @list items _ =>
    cases items with
    | nil => exact ⟨'[', _, by rw [writeValue], by decide⟩
    | cons => exact ⟨'[', _, by rw [writeValue], by decide⟩
  | @record entries _ _ =>
    cases entries with
    | nil => exact ⟨'\x7b', _, by rw [writeValue], by decide⟩
    | cons => exact ⟨'\x7b', _, by rw [writeValue], by decide⟩

theorem skipBlank_writeValue {value : Value} (plain : Plain value) (depth : Nat)
    (text : List Char) :
    skipBlank (writeValue depth value ++ text) = writeValue depth value ++ text := by
  obtain ⟨first, after, written, solid, _⟩ := exists_writeValue plain depth
  rw [written, List.cons_append, skipBlank_cons solid]

theorem head?_writeValue_ne {value : Value} (plain : Plain value) (depth : Nat)
    (text : List Char) : (skipBlank (writeValue depth value ++ text)).head? ≠ some ']' := by
  obtain ⟨first, after, written, solid, notClosing, _⟩ := exists_writeValue plain depth
  rw [written, List.cons_append, skipBlank_cons solid]
  exact fun same => notClosing (Option.some.inj same)

theorem skipBlank_writeText (key : String) (text : List Char) :
    skipBlank (writeText key ++ text) = writeText key ++ text :=
  skipBlank_cons rfl _

/-! ### Written values -/

theorem reads_writeInteger (value : Int) {rest : List Char} (ends : EndsNumber rest) :
    Reads (writeInteger value ++ rest) (.integer value) rest := by
  have read := readPlain_number (readWord_writeInteger value rest)
    (readNumber_writeInteger ends value)
  obtain ⟨first, text, written, numeral⟩ := exists_writeInteger value
  rw [written, List.cons_append] at read ⊢
  refine reads_plain ⟨?_, ?_, ?_⟩ read
  · exact ne_of_startsNumeral numeral rfl
  · exact ne_of_startsNumeral numeral rfl
  · exact ne_of_startsNumeral numeral rfl

theorem reads_writeText (text : String) (rest : List Char) :
    Reads (writeText text ++ rest) (.text text) rest := by
  have read := reads_quoted (readText_flatMap (writeText text ++ rest) text.toList rest)
  rwa [String.ofList_toList] at read

/-- Where each member of a list is read as it was written, so are all of them together. -/
theorem readsItems_writeItems {depth : Nat} {item : Value} {items : List Value}
    (plain : ∀ member ∈ item :: items, Plain member)
    (read : ∀ member ∈ item :: items, ∀ rest, EndsNumber rest →
      Reads (writeValue depth member ++ rest) member rest) (outer : Nat) (rest : List Char) :
    ReadsItems
      (writeValue depth item ++ (writeItems depth items ++ (newLine outer ++ ']' :: rest)))
      (item :: items) rest := by
  induction items generalizing item with
  | nil =>
    rw [writeItems, List.nil_append]
    refine readsItems_last (read item List.mem_cons_self _ (endsNumber_newLine _ _)) ?_
    rw [skipBlank_newLine, skipBlank_cons rfl]
  | cons next items inductionHypothesis =>
    have later := inductionHypothesis (List.forall_mem_cons.mp plain).2
      (List.forall_mem_cons.mp read).2
    simp only [writeItems, List.cons_append, List.append_assoc]
    refine readsItems_more (read item List.mem_cons_self _ (endsNumber_comma _))
      (skipBlank_cons rfl _) ?_
    rw [skipBlank_newLine, skipBlank_writeValue (plain next (by simp))]
    exact later

theorem readsKey_writeText (key : String) {valueText : List Char}
    (solid : skipBlank valueText = valueText) :
    ReadsKey (writeText key ++ ':' :: ' ' :: valueText) key valueText := by
  have written := readText_flatMap (writeText key ++ ':' :: ' ' :: valueText) key.toList
    (':' :: ' ' :: valueText)
  have read := readsKey_quoted written (skipBlank_cons rfl (' ' :: valueText))
  rw [String.ofList_toList] at read
  have skipped : skipBlank (' ' :: valueText) = valueText := solid
  rwa [skipped] at read

/-- Where each value of a record is read as it was written, so are its entries together. -/
theorem readsEntries_writeEntries {depth : Nat} {entry : String × Value}
    {entries : List (String × Value)} (plain : ∀ member ∈ entry :: entries, Plain member.2)
    (read : ∀ member ∈ entry :: entries, ∀ rest, EndsNumber rest →
      Reads (writeValue depth member.2 ++ rest) member.2 rest) (outer : Nat) (rest : List Char) :
    ReadsEntries
      (writeText entry.1 ++ ':' :: ' ' :: (writeValue depth entry.2 ++
        (writeEntries depth entries ++ (newLine outer ++ '\x7d' :: rest))))
      (entry :: entries) rest := by
  have readsKey := fun text => readsKey_writeText entry.1
    (skipBlank_writeValue (plain entry List.mem_cons_self) depth text)
  induction entries generalizing entry with
  | nil =>
    rw [writeEntries, List.nil_append]
    refine readsEntries_last (readsKey _)
      (read entry List.mem_cons_self _ (endsNumber_newLine _ _)) ?_
    rw [skipBlank_newLine, skipBlank_cons rfl]
  | cons next entries inductionHypothesis =>
    have later := inductionHypothesis (List.forall_mem_cons.mp plain).2
      (List.forall_mem_cons.mp read).2 fun text =>
        readsKey_writeText next.1 (skipBlank_writeValue (plain next (by simp)) depth text)
    simp only [writeEntries, List.cons_append, List.append_assoc, List.nil_append]
    refine readsEntries_more (readsKey _)
      (read entry List.mem_cons_self _ (endsNumber_comma _)) (skipBlank_cons rfl _) ?_
    rw [skipBlank_newLine, skipBlank_writeText]
    exact later

/-- A plain value is read as it was written, at every depth, whatever follows that could not continue
a number. -/
theorem reads_writeValue {value : Value} (plain : Plain value) (depth : Nat) {rest : List Char}
    (ends : EndsNumber rest) : Reads (writeValue depth value ++ rest) value rest := by
  induction plain generalizing depth rest with
  | null => exact reads_plain (by decide) (readPlain_word rfl)
  | bool value =>
    cases value with
    | true => exact reads_plain (by decide) (readPlain_word rfl)
    | false => exact reads_plain (by decide) (readPlain_word rfl)
  | integer value =>
    rw [writeValue]
    exact reads_writeInteger value ends
  | text value =>
    rw [writeValue]
    exact reads_writeText value rest
  | @list items plain inductionHypothesis =>
    cases items with
    | nil =>
      rw [writeValue]
      exact reads_emptyList rest
    | cons item items =>
      have read := readsItems_writeItems plain
        (fun member listed rest => inductionHypothesis member listed (depth + 1)) depth rest
      have skipped := skipBlank_writeValue (plain item List.mem_cons_self)
      simp only [writeValue, List.cons_append, List.append_assoc, List.nil_append]
      refine reads_list ?_ ?_
      · rw [skipBlank_newLine]
        exact head?_writeValue_ne (plain item List.mem_cons_self) _ _
      · rw [skipBlank_newLine, skipped]
        exact read
  | @record entries distinct plain inductionHypothesis =>
    cases entries with
    | nil =>
      rw [writeValue]
      exact reads_emptyRecord rest
    | cons entry entries =>
      have read := readsEntries_writeEntries plain
        (fun member listed rest => inductionHypothesis member listed (depth + 1)) depth rest
      have collected : Reads (writeValue depth (.record (entry :: entries)) ++ rest)
          (.record (collect (entry :: entries))) rest := by
        simp only [writeValue, List.cons_append, List.append_assoc, List.nil_append]
        refine reads_record ?_ ?_
        · rw [skipBlank_newLine, skipBlank_writeText]
          exact nofun
        · rw [skipBlank_newLine, skipBlank_writeText]
          exact read
      rwa [collect_eq_self distinct] at collected

/-- The text of a plain value and a newline are read as the value. -/
theorem readList_writeValue {value : Value} (plain : Plain value) :
    readList (writeValue 0 value ++ ['\n']) = .ok value := by
  obtain ⟨first, after, written, solid, _, noMark⟩ := exists_writeValue plain 0
  have read : Reads (skipBlank (writeValue 0 value ++ ['\n'])) value ['\n'] := by
    rw [skipBlank_writeValue plain]
    exact reads_writeValue plain 0 (endsNumber_newLine 0 [])
  obtain ⟨shorter, read⟩ := read
  unfold readList
  split
  next same =>
    rw [written] at same
    exact absurd (List.cons.inj same).1 noMark
  · rw [read]
    rfl

/-! ### Line ends -/

theorem carriage_not_mem_hexDigits (width value : Nat) : '\r' ∉ Text.hexDigits width value := by
  have digits : ∀ digit < 16, '\r' ≠ Text.hexDigit digit := by decide
  induction width generalizing value with
  | zero => exact List.not_mem_nil
  | succ width inductionHypothesis =>
    rw [Text.hexDigits, List.mem_append, List.mem_singleton, not_or]
    exact ⟨inductionHypothesis _, digits _ (Nat.mod_lt _ (by decide))⟩

theorem carriage_not_mem_writeCharacter (character : Char) : '\r' ∉ writeCharacter character := by
  rcases writeCharacter_cases character with ⟨letter, short, written⟩ | ⟨_, written⟩ |
    ⟨⟨_, _, notControl⟩, written⟩
  · have notLetter : '\r' ≠ letter := by
      intro same
      have noLetter : shortEscape? '\r' = none := rfl
      rw [← same, noLetter] at short
      cases short
    rw [written]
    simp [escape, notLetter]
  · rw [written]
    simp [escape, carriage_not_mem_hexDigits]
  · rw [written, List.mem_singleton]
    intro same
    rw [← same] at notControl
    exact absurd (by decide) notControl

theorem carriage_not_mem_writeText (text : String) : '\r' ∉ writeText text := by
  simp [writeText, carriage_not_mem_writeCharacter, quote]

theorem carriage_not_mem_newLine (depth : Nat) : '\r' ∉ newLine depth := by
  simp [newLine]

theorem carriage_not_mem_writeInteger (value : Int) : '\r' ∉ writeInteger value := by
  rw [writeInteger, List.mem_append, not_or]
  refine ⟨?_, fun digit => absurd (isAsciiDigit_of_mem_toDigits digit) (by decide)⟩
  split <;> simp

theorem carriage_not_mem_writeItems {depth : Nat} {items : List Value}
    (absent : ∀ item ∈ items, '\r' ∉ writeValue depth item) : '\r' ∉ writeItems depth items := by
  induction items with
  | nil => simp [writeItems]
  | cons item rest inductionHypothesis =>
    obtain ⟨first, others⟩ := List.forall_mem_cons.mp absent
    simp [writeItems, carriage_not_mem_newLine, first, inductionHypothesis others]

theorem carriage_not_mem_writeEntries {depth : Nat} {entries : List (String × Value)}
    (absent : ∀ entry ∈ entries, '\r' ∉ writeValue depth entry.2) :
    '\r' ∉ writeEntries depth entries := by
  induction entries with
  | nil => simp [writeEntries]
  | cons entry rest inductionHypothesis =>
    obtain ⟨first, others⟩ := List.forall_mem_cons.mp absent
    simp [writeEntries, carriage_not_mem_newLine, carriage_not_mem_writeText, first,
      inductionHypothesis others]

/-- Written text holds no carriage return, not even where a text of the value does. -/
theorem carriage_not_mem_writeValue {value : Value} (plain : Plain value) (depth : Nat) :
    '\r' ∉ writeValue depth value := by
  induction plain generalizing depth with
  | null => simp [writeValue]
  | bool value => cases value <;> simp [writeValue]
  | integer value =>
    rw [writeValue]
    exact carriage_not_mem_writeInteger value
  | text value =>
    rw [writeValue]
    exact carriage_not_mem_writeText value
  | @list items _ inductionHypothesis =>
    cases items with
    | nil => simp [writeValue]
    | cons item items =>
      obtain ⟨first, others⟩ := List.forall_mem_cons.mp fun item member =>
        inductionHypothesis item member (depth + 1)
      simp [writeValue, carriage_not_mem_newLine, first, carriage_not_mem_writeItems others]
  | @record entries _ _ inductionHypothesis =>
    cases entries with
    | nil => simp [writeValue]
    | cons entry entries =>
      obtain ⟨first, others⟩ := List.forall_mem_cons.mp fun entry member =>
        inductionHypothesis entry member (depth + 1)
      simp [writeValue, carriage_not_mem_newLine, carriage_not_mem_writeText, first,
        carriage_not_mem_writeEntries others]

end TreeSchema.Json
