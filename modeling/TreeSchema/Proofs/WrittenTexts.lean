/-
This file proves that quoted texts and whole numbers are read as they were written. A
text may hold any characters at all. A character is written in one of three ways, and
each of them is taken back as one character; the text after the closing quote is left as
it is. A whole number may be of any size. Its digits do not start with a zero unless
they are a single zero, which is where reading would stop too early; reading stops in the
right place if what follows does not continue the number.
-/
import TreeSchema.Json.Reader
import TreeSchema.Json.Writer
import Mathlib.Data.List.Basic
import Mathlib.Tactic.SplitIfs

namespace TreeSchema.Json

/-! ### Texts -/

section Texts

variable {opening text after characters rest : List Char}

theorem readText_plain {character : Char} (read : readText opening text = .ok (characters, rest))
    (notQuote : character ≠ quote) (notEscape : character ≠ escape)
    (notControl : ¬character.toNat < 32) :
    readText opening (character :: text) = .ok (character :: characters, rest) := by
  rw [readText, if_neg notQuote, if_neg notEscape, if_neg notControl, read]

theorem readText_escape {meant : Char} (escaped : readEscape opening text = .ok (meant, after))
    (read : readText opening after = .ok (characters, rest)) :
    readText opening (escape :: text) = .ok (meant :: characters, rest) := by
  rw [readText, if_neg (by decide), if_pos rfl]
  split
  next failed =>
    rw [escaped] at failed
    cases failed
  next found =>
    rw [escaped] at found
    cases found
    rw [read]

theorem readEscape_letter {letter meant : Char} (short : shortEscape? letter = some meant) :
    readEscape opening (letter :: text) = .ok (meant, text) := by
  unfold readEscape
  split
  next empty => cases empty
  next same =>
    cases same
    have noLetter : shortEscape? 'u' = none := rfl
    exact absurd (noLetter.symm.trans short) nofun
  next same =>
    cases same
    rw [short]

theorem hexValue?_hexDigit {value : Nat} (small : value < 16) :
    hexValue? (Text.hexDigit value) = some value := by
  revert value
  decide

theorem hexNumber?_hexDigits {value : Nat} (small : value < 65536)
    {first second third fourth : Char}
    (digits : Text.hexDigits 4 value = [first, second, third, fourth]) :
    hexNumber? first second third fourth = some value := by
  have back (number : Nat) : hexValue? (Text.hexDigit (number % 16)) = some (number % 16) :=
    hexValue?_hexDigit (Nat.mod_lt number (by decide))
  simp only [Text.hexDigits, List.nil_append, List.cons_append, List.cons.injEq, and_true] at digits
  obtain ⟨rfl, rfl, rfl, rfl⟩ := digits
  simp only [hexNumber?, back, Option.bind_eq_bind, Option.bind_some, Option.pure_def]
  refine congrArg some ?_
  omega

/-- The number of a control character names the character, where more text follows. -/
theorem readEscape_hexDigits {character : Char} (control : character.toNat < 32)
    (more : text ≠ []) :
    readEscape opening ('u' :: (Text.hexDigits 4 character.toNat ++ text)) =
      .ok (character, text) := by
  obtain ⟨next, rest, rfl⟩ := List.exists_cons_of_ne_nil more
  obtain ⟨first, second, third, fourth, digits⟩ : ∃ first second third fourth,
      Text.hexDigits 4 character.toNat = [first, second, third, fourth] := ⟨_, _, _, _, rfl⟩
  have number := hexNumber?_hexDigits (by omega) digits
  rw [digits]
  show readUnicodeEscape ('u' :: first :: second :: third :: fourth :: next :: rest) = _
  simp only [readUnicodeEscape, number]
  rw [if_neg (by omega), if_neg (by omega), Char.ofNat_toNat]

/-- A character is written as a letter after a backslash, by its number, or as it stands. -/
theorem writeCharacter_cases (character : Char) :
    (∃ letter, shortEscape? letter = some character ∧
        writeCharacter character = [escape, letter]) ∨
      (character.toNat < 32 ∧
        writeCharacter character = escape :: 'u' :: Text.hexDigits 4 character.toNat) ∨
      (character ≠ quote ∧ character ≠ escape ∧ ¬character.toNat < 32) ∧
        writeCharacter character = [character] := by
  unfold writeCharacter
  split_ifs with marked newLine carriage tab feed back control
  · refine .inl ⟨character, ?_, rfl⟩
    rcases marked with rfl | rfl <;> rfl
  · exact .inl ⟨'n', by rw [newLine]; rfl, rfl⟩
  · exact .inl ⟨'r', by rw [carriage]; rfl, rfl⟩
  · exact .inl ⟨'t', by rw [tab]; rfl, rfl⟩
  · exact .inl ⟨'f', by rw [feed]; rfl, rfl⟩
  · exact .inl ⟨'b', by rw [back]; rfl, rfl⟩
  · exact .inr (.inl ⟨control, rfl⟩)
  · rw [not_or] at marked
    exact .inr (.inr ⟨⟨marked.1, marked.2, control⟩, rfl⟩)

/-- A written character is read as one character. -/
theorem readText_writeCharacter (character : Char)
    (read : readText opening text = .ok (characters, rest)) :
    readText opening (writeCharacter character ++ text) = .ok (character :: characters, rest) := by
  rcases writeCharacter_cases character with ⟨letter, short, written⟩ | ⟨control, written⟩ |
    ⟨⟨notQuote, notEscape, notControl⟩, written⟩
  · rw [written]
    exact readText_escape (readEscape_letter short) read
  · have more : text ≠ [] := fun empty => by
      rw [empty, readText] at read
      cases read
    rw [written]
    exact readText_escape (readEscape_hexDigits control more) read
  · rw [written]
    exact readText_plain read notQuote notEscape notControl

theorem readText_flatMap (opening characters rest : List Char) :
    readText opening (characters.flatMap writeCharacter ++ [quote] ++ rest) =
      .ok (characters, rest) := by
  induction characters with
  | nil =>
    show readText opening (quote :: rest) = _
    rw [readText, if_pos rfl]
  | cons character characters inductionHypothesis =>
    rw [List.flatMap_cons, List.append_assoc, List.append_assoc, ← List.append_assoc _ [quote]]
    exact readText_writeCharacter character inductionHypothesis

end Texts

/-! ### Digits -/

theorem isAsciiDigit_of_mem_toDigits {value : Nat} {digit : Char}
    (member : digit ∈ Nat.toDigits 10 value) : Text.isAsciiDigit digit = true :=
  Nat.isDigit_of_mem_toDigits (by decide) (by decide) member

theorem decimalValue_toDigits (value : Nat) : decimalValue (Nat.toDigits 10 value) = value :=
  Nat.ofDigitChars_toDigits (by decide) (by decide)

/-- The digits of a number are a first digit, which is a zero only for zero itself, and others. -/
theorem exists_toDigits (value : Nat) :
    ∃ first others, Nat.toDigits 10 value = first :: others ∧ Text.isAsciiDigit first = true ∧
      (first = '0' → value = 0) := by
  induction value using Nat.strongRecOn with
  | ind value inductionHypothesis =>
    by_cases small : value < 10
    · have only : ∀ digit < 10, Nat.digitChar digit = '0' → digit = 0 := by decide
      have digits : Nat.toDigits 10 value = [Nat.digitChar value] := Nat.toDigits_of_lt_base small
      have member : Nat.digitChar value ∈ Nat.toDigits 10 value := by
        rw [digits]
        exact List.mem_singleton_self _
      exact ⟨Nat.digitChar value, [], digits, isAsciiDigit_of_mem_toDigits member,
        only value small⟩
    · obtain ⟨first, others, digits, digit, zero⟩ := inductionHypothesis (value / 10) (by omega)
      refine ⟨first, others ++ [Nat.digitChar (value % 10)], ?_, digit, fun same => ?_⟩
      · rw [Nat.toDigits_of_base_le (by decide) (by omega), digits, List.cons_append]
      · have := zero same
        omega

/-! ### Whole numbers -/

/-- What follows a number and is no part of it. -/
def EndsNumber (rest : List Char) : Prop :=
  ∀ next ∈ rest.head?, Text.isAsciiDigit next = false ∧ next ≠ '.' ∧ next ≠ 'e' ∧ next ≠ 'E'

section Numbers

variable {rest : List Char} (ends : EndsNumber rest)

include ends

theorem digitRun_append {digits : List Char}
    (all : ∀ digit ∈ digits, Text.isAsciiDigit digit = true) :
    digitRun (digits ++ rest) = (digits, rest) := by
  rw [digitRun, List.takeWhile_append_of_pos all, List.dropWhile_append_of_pos all]
  cases rest with
  | nil => rw [List.takeWhile_nil, List.append_nil, List.dropWhile_nil]
  | cons next rest => simp [(ends next rfl).1]

theorem readFraction_of_ends : readFraction rest = ([], rest) := by
  unfold readFraction
  split
  · exact absurd rfl (ends _ rfl).2.1
  · rfl

theorem readExponent_of_ends : readExponent rest = (none, rest) := by
  unfold readExponent
  split
  · rfl
  next mark _ => exact if_neg (not_or.mpr (ends mark rfl).2.2)

theorem readWholePart_toDigits (value : Nat) :
    readWholePart (Nat.toDigits 10 value ++ rest) = some (Nat.toDigits 10 value, rest) := by
  by_cases zero : value = 0
  · rw [zero, Nat.toDigits_zero]
    rfl
  · have all : ∀ digit ∈ Nat.toDigits 10 value, Text.isAsciiDigit digit = true :=
      fun _ => isAsciiDigit_of_mem_toDigits
    have run := digitRun_append ends all
    obtain ⟨first, others, digits, digit, onlyZero⟩ := exists_toDigits value
    rw [digits, List.cons_append] at run ⊢
    rw [readWholePart, if_neg fun same => zero (onlyZero same), if_pos digit, run]

omit ends in
theorem readSign_writeInteger (value : Int) (rest : List Char) :
    readSign (writeInteger value ++ rest) =
      (decide (value < 0), Nat.toDigits 10 value.natAbs ++ rest) := by
  unfold writeInteger
  by_cases negative : value < 0
  · rw [if_pos negative, decide_eq_true negative]
    rfl
  · obtain ⟨first, others, digits, digit, _⟩ := exists_toDigits value.natAbs
    rw [if_neg negative, decide_eq_false negative, List.nil_append, digits, List.cons_append]
    unfold readSign
    split
    next same =>
      rw [(List.cons.inj same).1] at digit
      exact absurd digit (by decide)
    · rfl

theorem readNumber_writeInteger (value : Int) :
    readNumber (writeInteger value ++ rest) = some (.integer value, rest) := by
  have whole : numberValue (decide (value < 0)) (Nat.toDigits 10 value.natAbs) [] none =
      .integer value := by
    rw [numberValue, if_pos ⟨rfl, rfl⟩, decimalValue_toDigits]
    refine congrArg Value.integer ?_
    by_cases negative : value < 0
    · rw [if_pos (decide_eq_true negative)]
      omega
    · rw [if_neg (by simpa using negative)]
      omega
  simp only [readNumber, readSign_writeInteger, readWholePart_toDigits ends,
    readFraction_of_ends ends, readExponent_of_ends ends, whole, Option.bind_eq_bind,
    Option.bind_some, Option.pure_def]

end Numbers

/-! ### No word starts like a number -/

theorem dropWord_toDigits {letter : Char} (notDigit : Text.isAsciiDigit letter = false)
    (word rest : List Char) (value : Nat) :
    dropWord (letter :: word) (Nat.toDigits 10 value ++ rest) = none := by
  obtain ⟨first, others, digits, digit, _⟩ := exists_toDigits value
  rw [digits, List.cons_append, dropWord, if_neg]
  intro same
  rw [same, digit] at notDigit
  exact Bool.noConfusion notDigit

theorem readWord_writeInteger (value : Int) (rest : List Char) :
    readWord (writeInteger value ++ rest) = none := by
  rw [readWord, List.findSome?_eq_none_iff]
  intro entry member
  rw [Option.map_eq_none_iff, writeInteger]
  simp only [words, List.mem_cons, List.not_mem_nil, or_false] at member
  by_cases negative : value < 0
  · -- Only the last word starts with a minus, and a letter follows it.
    rw [if_pos negative]
    rcases member with rfl | rfl | rfl | rfl | rfl | rfl
    case inr.inr.inr.inr.inr => exact dropWord_toDigits rfl _ _ _
    all_goals rfl
  · rw [if_neg negative]
    rcases member with rfl | rfl | rfl | rfl | rfl | rfl
    all_goals exact dropWord_toDigits rfl _ _ _

end TreeSchema.Json
