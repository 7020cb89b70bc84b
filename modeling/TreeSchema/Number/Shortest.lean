/-
This file writes a double in decimal with the fewest digits that read back as
the same double. For one, two, … seventeen digits the two neighbours of the value
on that decimal grid are tried; the first grid with a neighbour that reads back
wins, and of two such neighbours the nearer one. Values from 0.0001 to below
10 ^ 16 are written positionally, with a fraction of at least one digit; all
others with an exponent of at least two digits.
-/
import TreeSchema.Number.Double

namespace TreeSchema.Double

/-- The decimal exponent of the leading digit of a positive ratio. -/
def leadingPower (numerator denominator : Nat) : Int :=
  if denominator ≤ numerator then (Nat.toDigits 10 (numerator / denominator)).length - 1
  else
    match (List.range 400).find? fun places => denominator ≤ numerator * Nat.pow 10 places with
    | some places => -(places : Int)
    | none => 0

/-- A whole number times a power of ten, as a ratio. -/
def decimalRatio (digits : Nat) (power : Int) : Nat × Nat :=
  if 0 ≤ power then (digits * Nat.pow 10 power.toNat, 1) else (digits, Nat.pow 10 (-power).toNat)

/-- Whether `digits * 10 ^ power` reads back as the positive double given. -/
def readsBack (mantissa : Nat) (exponent : Int) (digits : Nat) (power : Int) : Bool :=
  let (numerator, denominator) := decimalRatio digits power
  ofRatio false numerator denominator == .finite false mantissa exponent

/-- The neighbours of a value on the grid of the multiples of `10 ^ power`, the nearer first;
of two at one distance the even one comes first. -/
def neighbours (numerator denominator : Nat) (power : Int) : List Nat :=
  let (scaled, divisor) :=
    if 0 ≤ power then (numerator, denominator * Nat.pow 10 power.toNat)
    else (numerator * Nat.pow 10 (-power).toNat, denominator)
  let below := scaled / divisor
  let twice := 2 * (scaled % divisor)
  if twice < divisor ∨ twice = divisor ∧ below % 2 = 0 then [below, below + 1]
  else [below + 1, below]

/-- The shortest decimal of a positive double: its digits and the power of ten they count. -/
def shortest (mantissa : Nat) (exponent : Int) : Nat × Int :=
  let (numerator, denominator) := magnitude mantissa exponent
  let leading := leadingPower numerator denominator
  let onGrid (count : Nat) : Option (Nat × Int) :=
    let power := leading + 1 - count
    ((neighbours numerator denominator power).find? fun digits =>
      readsBack mantissa exponent digits power).map fun digits => (digits, power)
  ((List.range 17).findSome? fun count => onGrid (count + 1)).getD (0, 0)

/-- Digits without the zeros at their end, and the power of ten they then count. -/
def dropZeros (digits : List Char) (power : Int) : List Char × Int :=
  let kept := (digits.reverse.dropWhile (· == '0')).reverse
  (kept, power + (digits.length - kept.length))

/-- Digits with a point after the first `count` of them, zeros filled in on either side. -/
def placePoint (digits : List Char) (count : Int) : List Char :=
  if count ≤ 0 then '0' :: '.' :: (List.replicate (-count).toNat '0' ++ digits)
  else
    let whole := count.toNat
    if digits.length ≤ whole then digits ++ List.replicate (whole - digits.length) '0' ++ ['.', '0']
    else digits.take whole ++ '.' :: digits.drop whole

/-- An exponent: the mark, the sign, and at least two digits. -/
def exponentText (power : Int) : List Char :=
  let digits := Nat.toDigits 10 power.natAbs
  'e' :: (if power < 0 then '-' else '+') ::
    (if digits.length < 2 then '0' :: digits else digits)

/-- Digits with an exponent for the first of them. -/
def scientific (digits : List Char) (power : Int) : List Char :=
  match digits with
  | [] => exponentText power
  | [only] => only :: exponentText power
  | first :: rest => first :: '.' :: (rest ++ exponentText power)

/-- The text of a double. -/
def textList : Double → List Char
  | .notNumber => ['n', 'a', 'n']
  | .infinite negative => (if negative then ['-'] else []) ++ ['i', 'n', 'f']
  | .finite negative mantissa exponent =>
    let unsigned :=
      if mantissa = 0 then ['0', '.', '0']
      else
        let (digits, power) := shortest mantissa exponent
        let (digits, power) := dropZeros (Nat.toDigits 10 digits) power
        let leading := power + digits.length - 1
        if -4 ≤ leading ∧ leading < 16 then placePoint digits (leading + 1)
        else scientific digits leading
    (if negative then ['-'] else []) ++ unsigned

/-- The text of a double. -/
def text (value : Double) : String :=
  String.ofList value.textList

end TreeSchema.Double
