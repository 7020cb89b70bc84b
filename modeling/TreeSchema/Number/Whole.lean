/-
This file reads a whole number from a text, and writes one as a text. A text may have blanks
on either side, one sign, and decimal digits of any script with single underscores between
them; the four ASCII separators, although blank elsewhere, do not count as blanks here. Both
ways refuse what has too many digits. Where a number is read, the digits at the start are
counted before anything behind them is looked at, and zeros in front count as well.
-/
import TreeSchema.Text.Blank
import TreeSchema.Text.Digit

namespace TreeSchema.Whole

/-- The most digits that a whole number may have where it is read or written. -/
def maxDigits : Nat := 4300

/-- What is said of a whole number with too many digits; they are counted where it is read. -/
def tooLongMessage (digits : Option Nat) : String :=
  "Exceeds the limit (" ++ toString maxDigits ++ " digits) for integer string conversion" ++
    (match digits with
    | some digits => ": value has " ++ toString digits ++ " digits"
    | none => "") ++
    "; use sys.set_int_max_str_digits() to increase the limit"

/-! ### Reading -/

/-- Why a text gives no whole number. -/
inductive Fault where
  | notNumeral
  | tooLong (digits : Nat)
  deriving DecidableEq, Repr, Inhabited

/-- A character that may surround a number. -/
def isPadding (character : Char) : Bool :=
  Text.isBlank character && !(28 ≤ character.toNat && character.toNat ≤ 31)

/-- The characters without the padding at both ends. -/
def unpadded (characters : List Char) : List Char :=
  ((characters.dropWhile isPadding).reverse.dropWhile isPadding).reverse

/-- The digits at the start of a text: the number they stand for, how many they are, and what
follows them. -/
structure Numeral where
  value : Nat
  digits : Nat
  rest : List Char
  deriving DecidableEq, Repr, Inhabited

/-- The digits that follow others, given the number that these stand for and how many they are. An
underscore is followed by a digit. -/
def continueNumeral (value digits : Nat) : List Char → Option Numeral
  | [] => some ⟨value, digits, []⟩
  | ['_'] => none
  | '_' :: character :: rest =>
    (Text.digitValue? character).bind fun digit =>
      continueNumeral (10 * value + digit) (digits + 1) rest
  | character :: rest =>
    match Text.digitValue? character with
    | some digit => continueNumeral (10 * value + digit) (digits + 1) rest
    | none => some ⟨value, digits, character :: rest⟩

/-- The digits at the start of a text, if there are any. -/
def startNumeral : List Char → Option Numeral
  | [] => none
  | character :: rest =>
    (Text.digitValue? character).bind fun digit => continueNumeral digit 1 rest

/-- A number without a sign. -/
def readNumeral (characters : List Char) : Except Fault Int :=
  match startNumeral characters with
  | none => .error .notNumeral
  | some numeral =>
    if maxDigits < numeral.digits then .error (.tooLong numeral.digits)
    else if numeral.rest = [] then .ok numeral.value
    else .error .notNumeral

/-- A number with at most one sign. -/
def readSigned : List Char → Except Fault Int
  | '-' :: rest => (readNumeral rest).map fun value => -value
  | '+' :: rest => readNumeral rest
  | characters => readNumeral characters

/-- The whole number that a text spells, or why it spells none. -/
def ofText (text : String) : Except Fault Int :=
  readSigned (unpadded text.toList)

/-- The whole number that a text spells, if it spells one. -/
def ofText? (text : String) : Option Int :=
  (ofText text).toOption

/-! ### Writing -/

/-- The number of digits of a whole number. -/
def digitCount (value : Int) : Nat :=
  (Nat.toDigits 10 value.natAbs).length

/-- A whole number has few enough digits to be written. -/
def IsShort (value : Int) : Prop :=
  digitCount value ≤ maxDigits

instance (value : Int) : Decidable (IsShort value) :=
  inferInstanceAs (Decidable (digitCount value ≤ maxDigits))

/-- The text of a whole number, if it can be written. -/
def text? (value : Int) : Option String :=
  if IsShort value then some (toString value) else none

/-- The text of a whole number; nothing stands for one that cannot be written. -/
def written (value : Int) : String :=
  (text? value).getD ""

/-- The least number that has more digits than a count. -/
def leastBeyond (count : Nat) : Nat := Nat.pow 10 count

theorem leastBeyond_pos (count : Nat) : 0 < leastBeyond count :=
  Nat.pow_pos (by decide)

theorem digitCount_le_iff {value : Int} {count : Nat} (positive : 0 < count) :
    digitCount value ≤ count ↔ value.natAbs < leastBeyond count :=
  Nat.length_toDigits_le_iff (by decide) positive

/-- The least number that has too many digits. -/
def tooLarge : Nat := leastBeyond maxDigits

theorem isShort_iff {value : Int} : IsShort value ↔ value.natAbs < tooLarge :=
  digitCount_le_iff (by decide)

theorem not_isShort_iff {value : Int} : ¬ IsShort value ↔ tooLarge ≤ value.natAbs := by
  rw [isShort_iff, Nat.not_lt]

theorem isShort_neg {value : Int} : IsShort (-value) ↔ IsShort value := by
  rw [isShort_iff, isShort_iff, Int.natAbs_neg]

theorem not_isShort_tooLarge : ¬ IsShort tooLarge :=
  not_isShort_iff.mpr (Nat.le_of_eq (Int.natAbs_natCast tooLarge).symm)

theorem neg_tooLarge_neg : (-tooLarge : Int) < 0 :=
  Int.neg_neg_of_pos (Int.natCast_pos.mpr (leastBeyond_pos maxDigits))

theorem text?_eq_some_iff {value : Int} {text : String} :
    text? value = some text ↔ IsShort value ∧ text = toString value := by
  rw [text?]
  split
  next short => rw [and_iff_right short, Option.some.injEq, eq_comm]
  next long => exact iff_of_false nofun fun both => long both.1

theorem text?_eq_none_iff {value : Int} : text? value = none ↔ ¬ IsShort value := by
  rw [text?]
  split
  next short => exact iff_of_false nofun (not_not_intro short)
  next long => exact iff_of_true rfl long

end TreeSchema.Whole
