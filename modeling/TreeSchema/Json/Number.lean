/-
This file reads the numbers of JSON. A number without fraction and exponent is a
whole number of any size; any other is the nearest double. A point that no digit
follows, and an exponent without digits, are left in the text.
-/
import TreeSchema.Value
import TreeSchema.Text.Digit

namespace TreeSchema.Json

/-- The number that decimal digits spell. -/
def decimalValue (digits : List Char) : Nat :=
  digits.foldl (fun value digit => 10 * value + (digit.toNat - 48)) 0

/-- The digits at the start of a text and what follows them. -/
def digitRun (text : List Char) : List Char × List Char :=
  (text.takeWhile Text.isAsciiDigit, text.dropWhile Text.isAsciiDigit)

/-- The sign at the start of a text, if there is one. -/
def readSign : List Char → Bool × List Char
  | '-' :: rest => (true, rest)
  | text => (false, text)

/-- The whole part of a number: a zero alone, or digits that start with another one. -/
def readWholePart (text : List Char) : Option (List Char × List Char) :=
  match text with
  | [] => none
  | first :: rest =>
    if first = '0' then some (['0'], rest)
    else if Text.isAsciiDigit first then some (digitRun text)
    else none

/-- The digits of a fraction, none where the text does not continue with one. -/
def readFraction (text : List Char) : List Char × List Char :=
  match text with
  | '.' :: rest =>
    let (digits, after) := digitRun rest
    if digits.isEmpty then ([], text) else (digits, after)
  | _ => ([], text)

/-- The sign that an exponent may have. -/
def readExponentSign : List Char → Bool × List Char
  | '-' :: rest => (true, rest)
  | '+' :: rest => (false, rest)
  | text => (false, text)

/-- An exponent, where the text continues with one. -/
def readExponent (text : List Char) : Option Int × List Char :=
  match text with
  | [] => (none, text)
  | mark :: rest =>
    if mark = 'e' ∨ mark = 'E' then
      let (negative, rest) := readExponentSign rest
      let (digits, after) := digitRun rest
      if digits.isEmpty then (none, text)
      else
        let power : Int := decimalValue digits
        (some (if negative then -power else power), after)
    else (none, text)

/-- The value of a number with the parts given. -/
def numberValue (negative : Bool) (whole fraction : List Char) (exponent : Option Int) : Value :=
  if fraction.isEmpty ∧ exponent.isNone then
    let value : Int := decimalValue whole
    .integer (if negative then -value else value)
  else
    let digits := whole ++ fraction
    .real (Double.ofDecimal negative (decimalValue digits) digits.length
      (exponent.getD 0 - fraction.length))

/-- A number and the text after it, if the text starts with a number. -/
def readNumber (text : List Char) : Option (Value × List Char) := do
  let (negative, rest) := readSign text
  let (whole, rest) ← readWholePart rest
  let (fraction, rest) := readFraction rest
  let (exponent, rest) := readExponent rest
  return (numberValue negative whole fraction exponent, rest)

theorem digitRun_length (text : List Char) : (digitRun text).2.length ≤ text.length :=
  (List.dropWhile_suffix Text.isAsciiDigit).length_le

theorem readSign_length (text : List Char) : (readSign text).2.length ≤ text.length := by
  unfold readSign
  split <;> simp

theorem readWholePart_length {text digits rest : List Char}
    (read : readWholePart text = some (digits, rest)) : rest.length < text.length := by
  unfold readWholePart at read
  split at read
  · simp at read
  next first after =>
    split at read
    · simp only [Option.some.injEq, Prod.mk.injEq] at read
      obtain ⟨_, rfl⟩ := read
      simp
    · split at read
      next digit =>
        simp only [Option.some.injEq, digitRun, Prod.mk.injEq] at read
        obtain ⟨_, rfl⟩ := read
        rw [List.dropWhile_cons, if_pos digit]
        exact Nat.lt_succ_of_le (List.dropWhile_suffix Text.isAsciiDigit).length_le
      · simp at read

theorem readFraction_length (text : List Char) : (readFraction text).2.length ≤ text.length := by
  unfold readFraction
  split
  next rest =>
    simp only
    split
    · exact Nat.le_refl _
    · exact Nat.le_succ_of_le (digitRun_length rest)
  · exact Nat.le_refl _

theorem readExponentSign_length (text : List Char) :
    (readExponentSign text).2.length ≤ text.length := by
  unfold readExponentSign
  split <;> simp

theorem readExponent_length (text : List Char) : (readExponent text).2.length ≤ text.length := by
  unfold readExponent
  split
  · exact Nat.le_refl _
  next mark rest =>
    split
    · simp only
      split
      · exact Nat.le_refl _
      · exact Nat.le_succ_of_le
          (Nat.le_trans (digitRun_length _) (readExponentSign_length rest))
    · exact Nat.le_refl _

theorem readNumber_length {text rest : List Char} {value : Value}
    (read : readNumber text = some (value, rest)) : rest.length < text.length := by
  unfold readNumber at read
  simp only [Option.bind_eq_bind, Option.bind_eq_some_iff, Option.pure_def, Option.some.injEq,
    Prod.mk.injEq] at read
  obtain ⟨⟨whole, afterWhole⟩, wholeRead, _, rfl⟩ := read
  dsimp only
  have sign := readSign_length text
  have wholePart := readWholePart_length wholeRead
  have fraction := readFraction_length afterWhole
  have exponent := readExponent_length (readFraction afterWhole).2
  omega

end TreeSchema.Json
