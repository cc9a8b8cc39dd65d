/-
Module: ScopedQuery.Text.Hexadecimal
Purpose: Hexadecimal digits and numbers of a fixed width.
Trusted boundary: none
Main exports:
  hexDigit?, hexValue?, hexChar, hexDigits
-/

namespace ScopedQuery.Text

/-!
Digits are read in either case and written in lower case.  A fixed-width number
is written with its leading zeros, so that reading it back needs no length.
-/

/-- Value of a hexadecimal digit of either case. -/
def hexDigit? (char : Char) : Option Nat :=
  if '0' ≤ char ∧ char ≤ '9' then some (char.toNat - '0'.toNat)
  else if 'a' ≤ char ∧ char ≤ 'f' then some (char.toNat - 'a'.toNat + 10)
  else if 'A' ≤ char ∧ char ≤ 'F' then some (char.toNat - 'A'.toNat + 10)
  else none

/-- Extend a number by the digits that follow it. -/
def hexValueFrom? (value : Nat) : List Char → Option Nat
  | [] => some value
  | char :: chars => do
      let digit ← hexDigit? char
      hexValueFrom? (value * 16 + digit) chars

/-- Value of a run of digits.  An empty run is zero. -/
def hexValue? (chars : List Char) : Option Nat :=
  hexValueFrom? 0 chars

/-- The lower-case digit of a value below sixteen. -/
def hexChar (value : Nat) : Char :=
  Nat.digitChar value

/-- The last `width` lower-case digits of a number. -/
def hexDigits : Nat → Nat → List Char
  | 0, _ => []
  | width + 1, value => hexDigits width (value / 16) ++ [hexChar (value % 16)]

theorem length_hexDigits (width value : Nat) :
    (hexDigits width value).length = width := by
  induction width generalizing value with
  | zero => rfl
  | succ width inductionHypothesis =>
      simp [hexDigits, inductionHypothesis]

/-- Every digit that is written reads back. -/
theorem hexDigit?_hexChar {value : Nat} (below : value < 16) :
    hexDigit? (hexChar value) = some value := by
  have table : ∀ digit : Fin 16, hexDigit? (hexChar digit.val) = some digit.val := by
    decide
  exact table ⟨value, below⟩

theorem hexValueFrom?_append (value : Nat) (left right : List Char) :
    hexValueFrom? value (left ++ right) =
      (hexValueFrom? value left).bind (hexValueFrom? · right) := by
  induction left generalizing value with
  | nil => rfl
  | cons char chars inductionHypothesis =>
      simp only [List.cons_append, hexValueFrom?]
      cases hexDigit? char with
      | none => rfl
      | some digit => exact inductionHypothesis _

/-- Reading back a fixed-width number that fits gives the number. -/
theorem hexValueFrom?_hexDigits (start width value : Nat)
    (fits : value < Nat.pow 16 width) :
    hexValueFrom? start (hexDigits width value) =
      some (start * Nat.pow 16 width + value) := by
  induction width generalizing value with
  | zero =>
      have : value = 0 := Nat.lt_one_iff.mp fits
      simp [hexDigits, hexValueFrom?, this]
  | succ width inductionHypothesis =>
      have power : Nat.pow 16 (width + 1) = Nat.pow 16 width * 16 := rfl
      rw [power] at fits ⊢
      have quotient : value / 16 < Nat.pow 16 width :=
        Nat.div_lt_of_lt_mul (by omega)
      have digit := hexDigit?_hexChar (Nat.mod_lt value (by decide : 0 < 16))
      rw [hexDigits, hexValueFrom?_append, inductionHypothesis _ quotient]
      simp only [Option.bind_some, hexValueFrom?, digit, bind]
      congr 1
      have := Nat.div_add_mod value 16
      rw [Nat.add_mul, Nat.mul_assoc]
      omega

end ScopedQuery.Text
