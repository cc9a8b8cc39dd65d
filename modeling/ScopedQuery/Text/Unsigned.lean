/-
Module: ScopedQuery.Text.Unsigned
Purpose: Reading a thirty-two bit natural number in decimal.
Trusted boundary: agreement with the platform's reader of numbers and its words
  for faults is assumed, not proved
Main exports:
  NumberFault, NumberFault.message, readUInt32
-/

namespace ScopedQuery.Text

/-- Why a text is no number of the wanted width. -/
inductive NumberFault where
  | empty
  | invalidDigit
  | tooLarge
deriving Repr, Inhabited, DecidableEq

/-- The fault in words. -/
def NumberFault.message : NumberFault → String
  | .empty => "cannot parse integer from empty string"
  | .invalidDigit => "invalid digit found in string"
  | .tooLarge => "number too large to fit in target type"

/-- Extend a number by decimal digits.  The text is read from left to right and
the first fault counts: a character that is no digit, or a digit that takes the
number out of range. -/
def readDigits (value : Nat) : List Char → Except NumberFault Nat
  | [] => .ok value
  | char :: chars =>
      if char.isDigit then
        let extended := value * 10 + (char.toNat - '0'.toNat)
        if extended < UInt32.size then readDigits extended chars
        else .error .tooLarge
      else .error .invalidDigit

/-- Read a number: at least one digit, after an optional plus sign. -/
def readUInt32 (text : String) : Except NumberFault UInt32 :=
  match text.toList with
  | [] => .error .empty
  | ['+'] => .error .invalidDigit
  | '+' :: digits => (readDigits 0 digits).map UInt32.ofNat
  | digits => (readDigits 0 digits).map UInt32.ofNat

end ScopedQuery.Text
