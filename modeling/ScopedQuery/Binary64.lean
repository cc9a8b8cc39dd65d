/-
Module: ScopedQuery.Binary64
Purpose: Double-precision numbers as sixty-four bits, compared and rounded
  exactly.
Trusted boundary: none
Main exports:
  Binary64, Binary64.isNaN, Binary64.equal, Binary64.ofRatio,
  Binary64.ofDecimal, Binary64.ofInt
-/

namespace ScopedQuery

/-!
A double is its bit pattern: one sign bit, eleven exponent bits, fifty-two
fraction bits.  Nothing here rests on machine floating point.  Rounding a
decimal or an integer is exact arithmetic on natural numbers, and comparison is
the comparison of the IEEE standard, in which the two zeros are equal and a NaN
differs from everything.
-/

/-- A double-precision number, given by its sixty-four bits. -/
structure Binary64 where
  bits : UInt64
deriving Repr, Inhabited, DecidableEq

namespace Binary64

/-- The sign bit is set. -/
def isNegative (number : Binary64) : Bool :=
  decide (Nat.pow 2 63 ≤ number.bits.toNat)

/-- The biased exponent, from `0` to `2047`. -/
def exponentField (number : Binary64) : Nat :=
  number.bits.toNat / Nat.pow 2 52 % Nat.pow 2 11

/-- The fifty-two trailing bits of the significand. -/
def fractionField (number : Binary64) : Nat :=
  number.bits.toNat % Nat.pow 2 52

/-- Neither a NaN nor an infinity. -/
def isFinite (number : Binary64) : Bool :=
  number.exponentField != 2047

/-- Any of the patterns that stand for no number. -/
def isNaN (number : Binary64) : Bool :=
  number.exponentField == 2047 && number.fractionField != 0

/-- Zero of either sign. -/
def isZero (number : Binary64) : Bool :=
  number.exponentField == 0 && number.fractionField == 0

/-- Numerical equality: the two zeros agree and a NaN agrees with nothing. -/
def equal (left right : Binary64) : Bool :=
  !left.isNaN && !right.isNaN &&
    (left == right || (left.isZero && right.isZero))

/-- The integer significand of a finite number.  Its magnitude is
`significand * 2 ^ exponent`. -/
def significand (number : Binary64) : Nat :=
  if number.exponentField = 0 then number.fractionField
  else number.fractionField + Nat.pow 2 52

/-- The binary exponent that goes with `significand`. -/
def exponent (number : Binary64) : Int :=
  if number.exponentField = 0 then -1074
  else (number.exponentField : Int) - 1075

/-! ## Rounding to the nearest double -/

/-- The quotient rounded to the nearest integer, a half to the even one. -/
def divideToEven (numerator denominator : Nat) : Nat :=
  let quotient := numerator / denominator
  let remainder := numerator % denominator
  if 2 * remainder < denominator then quotient
  else if denominator < 2 * remainder then quotient + 1
  else quotient + quotient % 2

/-- The greatest `e` with `2 ^ e ≤ numerator / denominator`, for a positive
ratio.  The difference of the two integer logarithms is right or one too
large. -/
def ratioLog (numerator denominator : Nat) : Int :=
  let upper := numerator.log2
  let lower := denominator.log2
  let guess : Int := (upper : Int) - (lower : Int)
  if denominator * Nat.pow 2 (upper - lower) ≤
      numerator * Nat.pow 2 (lower - upper) then
    guess
  else guess - 1

/-- The bits below the sign of the double nearest to a positive ratio.  The
unit in the last place is never below `2 ^ (-1074)`, and a significand that
rounds up to the next power of two carries into the exponent field by plain
addition. -/
def magnitudeOfRatio (numerator denominator : Nat) : Nat :=
  let unit : Int := max (ratioLog numerator denominator - 52) (-1074)
  let rounded :=
    divideToEven (numerator * Nat.pow 2 (-unit).toNat)
      (denominator * Nat.pow 2 unit.toNat)
  min ((unit + 1074).toNat * Nat.pow 2 52 + rounded) (2047 * Nat.pow 2 52)

/-- Put a sign before a magnitude. -/
def ofMagnitude (negative : Bool) (magnitude : Nat) : Binary64 :=
  ⟨UInt64.ofNat (if negative then Nat.pow 2 63 + magnitude else magnitude)⟩

/-- The double nearest to `numerator / denominator`, with the sign given apart
so that a negative zero can be written. -/
def ofRatio (negative : Bool) (numerator denominator : Nat) : Binary64 :=
  ofMagnitude negative
    (if numerator = 0 then 0 else magnitudeOfRatio numerator denominator)

/-- The double nearest to an integer. -/
def ofInt (value : Int) : Binary64 :=
  ofRatio (decide (value < 0)) value.natAbs 1

/-- The double nearest to `digits * 10 ^ exponent`.  A number of more than four
hundred places before or after the point is an infinity or a zero without
further arithmetic. -/
def ofDecimal (negative : Bool) (digits : Nat) (exponent : Int) : Binary64 :=
  let places := ((Nat.toDigits 10 digits).length : Int) + exponent
  if digits = 0 || places < -400 then ofMagnitude negative 0
  else if 400 < places then ofMagnitude negative (2047 * Nat.pow 2 52)
  else
    ofRatio negative (digits * Nat.pow 10 exponent.toNat)
      (Nat.pow 10 (-exponent).toNat)

end Binary64

end ScopedQuery
