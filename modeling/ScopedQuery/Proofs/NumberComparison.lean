/-
Module: ScopedQuery.Proofs.NumberComparison
Purpose: Bit patterns of doubles compare equal when they stand for the same
  number or for the same infinity.
Trusted boundary: none
Main exports:
  Binary64.value, Binary64.Datum, Binary64.datum, Binary64.equal_iff_datum
-/
import Mathlib.Data.Int.Cast.Lemmas
import Mathlib.Data.Rat.Cast.CharZero
import Mathlib.Tactic.Ring
import ScopedQuery.Binary64

namespace ScopedQuery.Binary64

/-!
The comparison of doubles looks at bit patterns: they agree when they are the same or
when both are zeros, and never if one is a NaN.  This is the comparison of numbers,
because no number but zero has two patterns.  A significand has its leading bit set
unless the exponent is the least one, so neither can make up for the other.
-/

/-! ## Fields -/

variable {left right number : Binary64}

/-- The three fields make up the pattern. -/
theorem toNat_bits (number : Binary64) :
    number.bits.toNat = (if number.isNegative then 2 ^ 63 else 0) +
      number.exponentField * 2 ^ 52 + number.fractionField := by
  have bound : number.bits.toNat < 2 ^ 64 := number.bits.toNat_lt
  simp only [isNegative, exponentField, fractionField, Nat.pow_eq,
    decide_eq_true_eq]
  split <;> omega

theorem fractionField_lt (number : Binary64) :
    number.fractionField < 2 ^ 52 :=
  Nat.mod_lt _ (by decide)

/-- Patterns with the same fields are the same. -/
theorem eq_of_fields (signs : left.isNegative = right.isNegative)
    (exponents : left.exponentField = right.exponentField)
    (fractions : left.fractionField = right.fractionField) : left = right := by
  have bits : left.bits.toNat = right.bits.toNat := by
    rw [toNat_bits, toNat_bits, signs, exponents, fractions]
  cases left
  cases right
  exact congrArg mk (UInt64.toNat_inj.mp bits)

/-! ## Values -/

/-- The number that a finite pattern stands for. -/
def value (number : Binary64) : ℚ :=
  (if number.isNegative then -1 else 1) * number.significand *
    2 ^ number.exponent

/-- The least positive double. -/
def leastPositive : ℚ :=
  2 ^ (-1074 : Int)

/-- How many times the least positive double the magnitude is. -/
def units (number : Binary64) : Nat :=
  number.significand * 2 ^ (number.exponentField - 1)

/-- The units with their sign. -/
def signedUnits (number : Binary64) : Int :=
  if number.isNegative then -number.units else number.units

/-- A finite value is a multiple of the least positive double. -/
theorem value_eq_signedUnits (number : Binary64) :
    number.value = number.signedUnits * leastPositive := by
  have shift : number.exponent =
      ((number.exponentField - 1 : Nat) : Int) + (-1074 : Int) := by
    rw [exponent]
    split <;> omega
  rw [value, signedUnits, units, shift, zpow_add₀ two_ne_zero, zpow_natCast,
    ← leastPositive]
  split <;> push_cast <;> ring

/-- The exponent field bounds the units from above. -/
theorem units_lt (number : Binary64) :
    number.units < 2 ^ (52 + number.exponentField) := by
  have fraction := number.fractionField_lt
  rw [units, significand]
  split
  case isTrue least =>
    rw [least]
    simpa using fraction
  case isFalse above =>
    have bound : number.fractionField + Nat.pow 2 52 < 2 ^ 53 := by
      rw [Nat.pow_eq]
      omega
    have exponents : 52 + number.exponentField =
        53 + (number.exponentField - 1) := by omega
    rw [exponents, pow_add]
    exact Nat.mul_lt_mul_of_pos_right bound (Nat.two_pow_pos _)

/-- Above the least exponent the field bounds the units from below, too. -/
theorem le_units (above : number.exponentField ≠ 0) :
    2 ^ (51 + number.exponentField) ≤ number.units := by
  have leading : 2 ^ 52 ≤ number.significand := by
    rw [significand, if_neg above, Nat.pow_eq]
    omega
  have exponents : 51 + number.exponentField =
      52 + (number.exponentField - 1) := by omega
  rw [units, exponents, pow_add]
  exact Nat.mul_le_mul_right _ leading

/-- A greater exponent field makes the units more, whatever the fractions are. -/
theorem units_lt_of_exponentField_lt
    (less : left.exponentField < right.exponentField) :
    left.units < right.units := by
  calc left.units
      < 2 ^ (52 + left.exponentField) := left.units_lt
    _ ≤ 2 ^ (51 + right.exponentField) :=
        Nat.pow_le_pow_right (by decide) (by omega)
    _ ≤ right.units := le_units (by omega)

/-- The units determine the fields below the sign. -/
theorem fields_of_units (same : left.units = right.units) :
    left.exponentField = right.exponentField ∧
      left.fractionField = right.fractionField := by
  have exponents : left.exponentField = right.exponentField := by
    rcases Nat.lt_trichotomy left.exponentField right.exponentField with
      less | exponents | greater
    · exact absurd same (units_lt_of_exponentField_lt less).ne
    · exact exponents
    · exact absurd same (units_lt_of_exponentField_lt greater).ne'
  -- With one exponent the units are the significands on one scale.
  have significands : left.significand = right.significand := by
    rw [units, units, exponents] at same
    exact Nat.eq_of_mul_eq_mul_right (Nat.two_pow_pos _) same
  refine ⟨exponents, ?_⟩
  rw [significand, significand, exponents] at significands
  split at significands <;> omega

theorem isZero_iff_units : number.isZero = true ↔ number.units = 0 := by
  rw [isZero, units, significand, Bool.and_eq_true, beq_iff_eq, beq_iff_eq]
  constructor
  · rintro ⟨exponent, fraction⟩
    rw [if_pos exponent, fraction, Nat.zero_mul]
  · intro none
    have significand := (Nat.mul_eq_zero.mp none).resolve_right
      (Nat.two_pow_pos _).ne'
    split at significand
    case isTrue least => exact ⟨least, significand⟩
    case isFalse above =>
      rw [Nat.pow_eq] at significand
      omega

/-- Only the two zeros have the same signed units without being the same pattern. -/
theorem signedUnits_eq_iff :
    left.signedUnits = right.signedUnits ↔
      left = right ∨ left.isZero = true ∧ right.isZero = true := by
  rw [isZero_iff_units, isZero_iff_units]
  constructor
  · intro same
    by_cases signs : left.isNegative = right.isNegative
    · have magnitudes : left.units = right.units := by
        rw [signedUnits, signedUnits, signs] at same
        split at same <;> omega
      obtain ⟨exponents, fractions⟩ := fields_of_units magnitudes
      exact .inl (eq_of_fields signs exponents fractions)
    · -- A number and the opposite of a number are the same only for zero.
      have opposite : left.isNegative = !right.isNegative :=
        Bool.eq_not_of_ne signs
      rw [signedUnits, signedUnits, opposite] at same
      cases negative : right.isNegative <;> simp [negative] at same <;> omega
  · rintro (rfl | ⟨none, noneRight⟩)
    · rfl
    · simp [signedUnits, none, noneRight]

theorem value_eq_iff :
    left.value = right.value ↔
      left = right ∨ left.isZero = true ∧ right.isZero = true := by
  have positive : leastPositive ≠ 0 := zpow_ne_zero _ two_ne_zero
  rw [value_eq_signedUnits, value_eq_signedUnits, mul_left_inj' positive,
    Int.cast_inj, signedUnits_eq_iff]

/-! ## Data -/

/-- What a pattern can stand for. -/
inductive Datum where
  | notANumber
  | infinite (negative : Bool)
  | finite (value : ℚ)

/-- What a pattern stands for.  The two zeros stand for one number. -/
def datum (number : Binary64) : Datum :=
  if number.isNaN then .notANumber
  else if number.isFinite then .finite number.value
  else .infinite number.isNegative

theorem datum_eq_notANumber_iff :
    number.datum = .notANumber ↔ number.isNaN = true := by
  rw [datum]
  split
  · simp_all
  · split <;> simp_all

theorem isFinite_of_isZero (zero : number.isZero = true) :
    number.isFinite = true := by
  rw [isZero, Bool.and_eq_true, beq_iff_eq, beq_iff_eq] at zero
  rw [isFinite, zero.1]
  rfl

/-- What is neither finite nor a NaN has the fields of an infinity. -/
theorem fields_of_infinite (isNumber : number.isNaN = false)
    (infinite : number.isFinite = false) :
    number.exponentField = 2047 ∧ number.fractionField = 0 := by
  have greatest : number.exponentField = 2047 := by
    rwa [isFinite, bne_eq_false_iff_eq] at infinite
  rw [isNaN, greatest, beq_self_eq_true, Bool.true_and,
    bne_eq_false_iff_eq] at isNumber
  exact ⟨greatest, isNumber⟩

/-- Patterns that are no NaN stand for the same when they are the same or both are
zeros. -/
theorem datum_eq_iff (leftNumber : left.isNaN = false)
    (rightNumber : right.isNaN = false) :
    left.datum = right.datum ↔
      left = right ∨ left.isZero = true ∧ right.isZero = true := by
  rw [datum, datum, leftNumber, rightNumber]
  cases leftFinite : left.isFinite <;> cases rightFinite : right.isFinite
  case true.true => simp [value_eq_iff]
  case false.false =>
    -- The sign is all that tells one infinity from the other.
    obtain ⟨exponent, fraction⟩ := fields_of_infinite leftNumber leftFinite
    obtain ⟨exponentRight, fractionRight⟩ :=
      fields_of_infinite rightNumber rightFinite
    have signs : left.isNegative = right.isNegative ↔ left = right := by
      refine ⟨fun signs => ?_, congrArg isNegative⟩
      exact eq_of_fields signs (exponent.trans exponentRight.symm)
        (fraction.trans fractionRight.symm)
    have nonzero : left.isZero ≠ true := by
      intro zero
      simp [isFinite_of_isZero zero] at leftFinite
    simp [signs, nonzero]
  case true.false | false.true =>
    refine iff_of_false (by simp) ?_
    intro same
    have finite : left.isFinite = right.isFinite := by
      rcases same with rfl | ⟨zero, zeroRight⟩
      · rfl
      · rw [isFinite_of_isZero zero, isFinite_of_isZero zeroRight]
    simp [leftFinite, rightFinite] at finite

/-- Comparison is that of what the patterns stand for, except that a NaN agrees with
nothing. -/
theorem equal_iff_datum :
    left.equal right = true ↔
      left.datum ≠ .notANumber ∧ left.datum = right.datum := by
  rw [ne_eq, datum_eq_notANumber_iff]
  cases leftNaN : left.isNaN with
  | true => simp [equal, leftNaN]
  | false =>
      cases rightNaN : right.isNaN with
      | true =>
          have other : left.datum ≠ right.datum := by
            rw [datum_eq_notANumber_iff.mpr rightNaN, ne_eq,
              datum_eq_notANumber_iff, leftNaN]
            exact Bool.false_ne_true
          simp [equal, rightNaN, other]
      | false =>
          rw [datum_eq_iff leftNaN rightNaN]
          simp [equal, leftNaN, rightNaN]

/-! ## Comparison as a partial equivalence -/

theorem equal_symm (same : left.equal right = true) :
    right.equal left = true := by
  obtain ⟨number, data⟩ := equal_iff_datum.mp same
  exact equal_iff_datum.mpr ⟨data ▸ number, data.symm⟩

theorem equal_trans {middle : Binary64} (first : left.equal middle = true)
    (second : middle.equal right = true) : left.equal right = true := by
  obtain ⟨number, data⟩ := equal_iff_datum.mp first
  exact equal_iff_datum.mpr
    ⟨number, data.trans (equal_iff_datum.mp second).2⟩

theorem equal_self_iff (number : Binary64) :
    number.equal number = true ↔ number.isNaN = false := by
  rw [equal_iff_datum, and_iff_left rfl, ne_eq, datum_eq_notANumber_iff,
    Bool.not_eq_true]

end ScopedQuery.Binary64
