/-
Module: ScopedQuery.Decimal.Shortest
Purpose: The fewest decimal digits that read back as a given double, and their
  positional text.
Trusted boundary: agreement with the platform's text of a double is assumed, not
  proved
Main exports:
  Decimal, Decimal.shortest, Decimal.positional, Binary64.render
-/
import ScopedQuery.Binary64

namespace ScopedQuery

/-!
A positive double stands for every real number that rounds to it: an interval
whose ends lie half a unit away, and whose ends belong to it exactly when the
significand is even.  The text of the double is the shortest decimal in that
interval.  For each number of digits from one to seventeen the value has two
neighbours on the decimal grid.  The first grid with a neighbour inside the
interval wins, the nearer of two neighbours is taken, and of two equally near
ones the greater.

All comparisons are between natural numbers: an interval is kept as three
numerators over one denominator.
-/

/-- The number `digits * 10 ^ exponent`. -/
structure Decimal where
  digits : Nat
  exponent : Int
deriving Repr, Inhabited, DecidableEq

/-- The reals that round to a double, as `lower ≤ value ≤ upper` over a common
denominator. -/
structure RoundingInterval where
  lower : Nat
  value : Nat
  upper : Nat
  denominator : Nat
  closed : Bool
deriving Repr, Inhabited, DecidableEq

namespace RoundingInterval

/-- The interval of a finite double other than zero.  Below a power of two the
neighbour is only half as far away, except at the bottom of the range. -/
def ofBinary64 (number : Binary64) : RoundingInterval :=
  let significand := number.significand
  let unit := number.exponent - 2
  let scale := Nat.pow 2 unit.toNat
  let below :=
    if significand = Nat.pow 2 52 ∧ 1 < number.exponentField then 1 else 2
  { lower := (4 * significand - below) * scale
    value := 4 * significand * scale
    upper := (4 * significand + 2) * scale
    denominator := Nat.pow 2 (-unit).toNat
    closed := significand % 2 == 0 }

/-- Whether `point / weight` lies in the interval, where `weight` multiplies
the denominator. -/
def contains (interval : RoundingInterval) (point weight : Nat) : Bool :=
  if interval.closed then
    interval.lower * weight ≤ point && point ≤ interval.upper * weight
  else
    interval.lower * weight < point && point < interval.upper * weight

/-- The least `p` from `start` on with `value < 10 ^ p`, where `p` counts places
before the point; at most `fuel` places are tried. -/
def placesFrom (interval : RoundingInterval) : (fuel : Nat) → (start : Int) → Int
  | 0, start => start
  | fuel + 1, start =>
      if interval.value * Nat.pow 10 (-start).toNat <
          interval.denominator * Nat.pow 10 start.toNat then start
      else interval.placesFrom fuel (start + 1)

/-- The number of decimal places before the point: the least `p` with
`value < 10 ^ p`, which is negative when zeros follow the point.  Every double
lies between `10 ^ (-330)` and `10 ^ 330`. -/
def places (interval : RoundingInterval) : Int :=
  interval.placesFrom 660 (-330)

/-- The neighbour of the value on the grid of multiples of `10 ^ exponent` that
lies in the interval and is nearest to the value, if any does. -/
def onGrid? (interval : RoundingInterval) (exponent : Int) : Option Nat :=
  let weight := Nat.pow 10 (-exponent).toNat
  let step := interval.denominator * Nat.pow 10 exponent.toNat
  let scaled := interval.value * weight
  let low := scaled / step
  let high := low + 1
  let lowInside := interval.contains (low * step) weight
  let highInside := interval.contains (high * step) weight
  let lowNearer := scaled - low * step < high * step - scaled
  if lowInside && (lowNearer || !highInside) then some low
  else if highInside then some high
  else none

/-- The first hit on the grids with `count`, `count + 1`, … digits. -/
def firstHit (interval : RoundingInterval) (places : Int) :
    (fuel count : Nat) → Option Decimal
  | 0, _ => none
  | fuel + 1, count =>
      let exponent := places - count
      match interval.onGrid? exponent with
      | some digits => some { digits := digits, exponent := exponent }
      | none => interval.firstHit places fuel (count + 1)

end RoundingInterval

namespace Decimal

/-- Move trailing zeros from the digits to the exponent. -/
def normalize : (fuel : Nat) → Decimal → Decimal
  | 0, number => number
  | fuel + 1, number =>
      if number.digits % 10 = 0 ∧ number.digits ≠ 0 then
        normalize fuel
          { digits := number.digits / 10, exponent := number.exponent + 1 }
      else number

/-- The shortest decimal that reads back as the magnitude of a finite double.
Seventeen digits always suffice. -/
def shortest (number : Binary64) : Decimal :=
  if number.isZero then { digits := 0, exponent := 0 }
  else
    let interval := RoundingInterval.ofBinary64 number
    match interval.firstHit interval.places 17 1 with
    | some found => normalize 17 found
    | none => { digits := 0, exponent := 0 }

/-- Positional text: no exponent, no point in a whole number, and zeros where
the digits do not reach the point. -/
def positional (number : Decimal) : String :=
  let digits := Nat.toDigits 10 number.digits
  let after := (-number.exponent).toNat
  if 0 ≤ number.exponent then
    String.ofList (digits ++ List.replicate number.exponent.toNat '0')
  else
    let padded := List.replicate (after + 1 - digits.length) '0' ++ digits
    let whole := padded.length - after
    String.ofList (padded.take whole ++ '.' :: padded.drop whole)

end Decimal

/-- The text of a double: a sign, then the shortest decimal that reads back, or
a word for what is not finite. -/
def Binary64.render (number : Binary64) : String :=
  if number.isNaN then "NaN"
  else
    (if number.isNegative then "-" else "") ++
      (if number.isFinite then (Decimal.shortest number).positional else "inf")

end ScopedQuery
