/-
Module: ScopedQuery.Yaml.Natural
Purpose: Natural numbers written in a YAML scalar.
Trusted boundary: agreement with the integers of serde_yaml 0.9 is assumed, not
  proved
Main exports:
  natural?, TaggedScalar.natural?
-/
import ScopedQuery.Text.Hexadecimal
import ScopedQuery.Yaml.Document

namespace ScopedQuery.Yaml

/-!
A number is decimal without leading zeros, or has a mark of its base: `0x`, `0o`
or `0b`.  A plus sign may stand before it.  Only a plain scalar is a number, or
a literal one that is tagged as an integer.
-/

/-- Extend a number by digits of a base. -/
def digitsValue? (base value : Nat) : List Char → Option Nat
  | [] => some value
  | char :: chars => do
      let digit ← Text.hexDigit? char
      if digit < base then digitsValue? base (value * base + digit) chars
      else none

/-- The value of at least one digit of a base. -/
def baseValue? (base : Nat) (digits : List Char) : Option Nat :=
  if digits.isEmpty then none else digitsValue? base 0 digits

/-- The value of a number without a sign. -/
def unsignedValue? : List Char → Option Nat
  | '0' :: 'x' :: digits => baseValue? 16 digits
  | '0' :: 'o' :: digits => baseValue? 8 digits
  | '0' :: 'b' :: digits => baseValue? 2 digits
  | '0' :: _ :: _ => none
  | digits => baseValue? 10 digits

/-- The value of a number. -/
def natural? : List Char → Option Nat
  | '+' :: digits => unsignedValue? digits
  | digits => unsignedValue? digits

/-- The tag of integers. -/
def integerTag : TagText := TagText.ofChars "tag:yaml.org,2002:int".toList

/-- The number that a scalar stands for. -/
def TaggedScalar.natural? (tagged : TaggedScalar) : Option Nat :=
  match tagged.scalar.style with
  | .plain => Yaml.natural? tagged.scalar.text
  | .literal =>
      if tagged.tag = some integerTag then Yaml.natural? tagged.scalar.text
      else none
  | _ => none

end ScopedQuery.Yaml
