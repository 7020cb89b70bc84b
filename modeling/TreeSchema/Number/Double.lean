/-
This file holds double-precision numbers as exact values: a sign, a whole
mantissa and a power of two. A number written in decimal is read by rounding its
exact value to the nearest double, ties to the even mantissa, all in whole-number
arithmetic, so every result can be reasoned about.
-/

namespace TreeSchema

/-- A double: `± mantissa * 2 ^ exponent`, an infinity, or no number at all. -/
inductive Double where
  | finite (negative : Bool) (mantissa : Nat) (exponent : Int)
  | infinite (negative : Bool)
  | notNumber
  deriving DecidableEq, Repr, Inhabited

namespace Double

/-- The exponent of the smallest doubles; none goes below it. -/
def leastExponent : Int := -1074

/-- The largest exponent of a full mantissa. -/
def greatestExponent : Int := 971

/-- The quotient rounded to a whole number, a half to the even neighbour. -/
def roundQuotient (numerator denominator : Nat) : Nat :=
  let quotient := numerator / denominator
  let twice := 2 * (numerator % denominator)
  if denominator < twice ∨ denominator = twice ∧ quotient % 2 = 1 then quotient + 1 else quotient

/-- A ratio divided by a power of two, again as a ratio. -/
def scaleDown (numerator denominator : Nat) (exponent : Int) : Nat × Nat :=
  if 0 ≤ exponent then (numerator, denominator * Nat.pow 2 exponent.toNat)
  else (numerator * Nat.pow 2 (-exponent).toNat, denominator)

/-- The exponent that gives a ratio a mantissa of at most 53 binary digits. -/
def exponentFor (numerator denominator : Nat) : Int :=
  let guess : Int := (numerator.log2 : Int) - denominator.log2 - 53
  let (scaled, divisor) := scaleDown numerator denominator guess
  let fitting := if Nat.pow 2 53 ≤ scaled / divisor then guess + 1 else guess
  max leastExponent fitting

/-- The double nearest to a ratio. -/
def ofRatio (negative : Bool) (numerator denominator : Nat) : Double :=
  if numerator = 0 then .finite negative 0 leastExponent
  else
    let exponent := exponentFor numerator denominator
    let (scaled, divisor) := scaleDown numerator denominator exponent
    let rounded := roundQuotient scaled divisor
    let (mantissa, exponent) :=
      if rounded = Nat.pow 2 53 then (Nat.pow 2 52, exponent + 1) else (rounded, exponent)
    if greatestExponent < exponent then .infinite negative
    else .finite negative mantissa exponent

/-- The double nearest to `± digits * 10 ^ power`, where `digits` has `length` decimal digits.
Powers far out of range are settled without computing them. -/
def ofDecimal (negative : Bool) (digits length : Nat) (power : Int) : Double :=
  if digits = 0 ∨ length + power < -400 then .finite negative 0 leastExponent
  else if 400 < power then .infinite negative
  else if 0 ≤ power then ofRatio negative (digits * Nat.pow 10 power.toNat) 1
  else ofRatio negative digits (Nat.pow 10 (-power).toNat)

/-- The distance from zero as a ratio. -/
def magnitude (mantissa : Nat) (exponent : Int) : Nat × Nat :=
  if 0 ≤ exponent then (mantissa * Nat.pow 2 exponent.toNat, 1) else (mantissa, Nat.pow 2 (-exponent).toNat)

/-- A finite double without its fraction, that is, rounded toward zero. -/
def truncate (negative : Bool) (mantissa : Nat) (exponent : Int) : Int :=
  let (numerator, denominator) := magnitude mantissa exponent
  let whole : Int := (numerator / denominator : Nat)
  if negative then -whole else whole

/-- The greatest whole number not above a finite double. -/
def floor (negative : Bool) (mantissa : Nat) (exponent : Int) : Int :=
  let (numerator, denominator) := magnitude mantissa exponent
  let signed : Int := if negative then -(numerator : Int) else numerator
  Int.fdiv signed denominator

/-- The double differs from zero. A number that is none counts as different. -/
def isNonzero : Double → Bool
  | .finite _ mantissa _ => mantissa != 0
  | .infinite _ => true
  | .notNumber => true

end Double

end TreeSchema
