/-
Module: ScopedQuery.Json.Parser
Purpose: Reading JSON text.
Trusted boundary: agreement with the values and texts of serde_json 1.0 is
  assumed, not proved
Main exports:
  Json.parse?
-/
import ScopedQuery.Json.Basic
import ScopedQuery.Text.Hexadecimal

namespace ScopedQuery.Json

/-!
The reader works on a list of characters and hands on what it did not consume.
Nesting is bounded by the length of the text, which is the fuel that
`parse?` supplies.  A repeated key keeps the place of its first occurrence and
the value of its last.
-/

/-- The four blank characters of the format. -/
def isBlank (char : Char) : Bool :=
  char == ' ' || char == '\n' || char == '\r' || char == '\t'

/-- Drop leading blanks. -/
def skipBlanks (input : List Char) : List Char :=
  input.dropWhile isBlank

/-- Remove an expected word from the front. -/
def expect? : List Char → List Char → Option (List Char)
  | [], input => some input
  | wanted :: word, char :: input =>
      if wanted = char then expect? word input else none
  | _ :: _, [] => none

/-- Four hexadecimal digits as a code unit. -/
def codeUnit? : List Char → Option (Nat × List Char)
  | first :: second :: third :: fourth :: input => do
      let a ← Text.hexDigit? first
      let b ← Text.hexDigit? second
      let c ← Text.hexDigit? third
      let d ← Text.hexDigit? fourth
      some (((a * 16 + b) * 16 + c) * 16 + d, input)
  | _ => none

/-- The character after `\u`, which may take two escapes to write. -/
def escapedUnit? (input : List Char) : Option (Char × List Char) := do
  let (high, rest) ← codeUnit? input
  if 0xD800 ≤ high ∧ high < 0xDC00 then
    match rest with
    | '\\' :: 'u' :: rest => do
        let (low, rest) ← codeUnit? rest
        if 0xDC00 ≤ low ∧ low < 0xE000 then
          some (Char.ofNat (0x10000 + (high - 0xD800) * 0x400 + (low - 0xDC00)),
            rest)
        else none
    | _ => none
  else if 0xDC00 ≤ high ∧ high < 0xE000 then none
  else some (Char.ofNat high, rest)

/-- The character after a backslash. -/
def escape? : List Char → Option (Char × List Char)
  | 'u' :: input => escapedUnit? input
  | char :: input =>
      match char with
      | '\x22' => some ('\x22', input)
      | '\\' => some ('\\', input)
      | '/' => some ('/', input)
      | 'b' => some ('\x08', input)
      | 'f' => some ('\x0c', input)
      | 'n' => some ('\n', input)
      | 'r' => some ('\r', input)
      | 't' => some ('\t', input)
      | _ => none
  | [] => none

/-- The rest of a string after its opening quote. -/
def parseText : (fuel : Nat) → List Char → List Char →
    Option (String × List Char)
  | 0, _, _ => none
  | fuel + 1, reversed, input =>
      match input with
      | [] => none
      | '\x22' :: rest => some (String.ofList reversed.reverse, rest)
      | '\\' :: rest =>
          match escape? rest with
          | some (char, rest) => parseText fuel (char :: reversed) rest
          | none => none
      | char :: rest =>
          if char.toNat < 0x20 then none
          else parseText fuel (char :: reversed) rest

/-- Decimal value of a run of digits. -/
def digitsValue (digits : List Char) : Nat :=
  digits.foldl (fun value digit => value * 10 + (digit.toNat - '0'.toNat)) 0

/-- The digits after a point, of which there is at least one. -/
def parseFraction? : List Char → Option (List Char × List Char)
  | '.' :: input =>
      let digits := input.takeWhile Char.isDigit
      if digits.isEmpty then none
      else some (digits, input.dropWhile Char.isDigit)
  | input => some ([], input)

/-- The exponent, if one is written. -/
def parseExponent? : List Char → Option (Option Int × List Char)
  | char :: input =>
      if char = 'e' ∨ char = 'E' then
        let (negative, input) :=
          match input with
          | '-' :: input => (true, input)
          | '+' :: input => (false, input)
          | input => (false, input)
        let digits := input.takeWhile Char.isDigit
        if digits.isEmpty then none
        else
          let value : Int := digitsValue digits
          some (some (if negative then -value else value),
            input.dropWhile Char.isDigit)
      else some (none, char :: input)
  | [] => some (none, [])

/-- A number.  Without fraction and exponent it is an integer, except that a
negative zero keeps its sign as a double.  A double beyond the range is not
accepted, and neither is an integer that has no double near it. -/
def parseNumber? (input : List Char) : Option (JsonNumber × List Char) := do
  let (negative, input) :=
    match input with
    | '-' :: input => (true, input)
    | input => (false, input)
  let whole := input.takeWhile Char.isDigit
  let input := input.dropWhile Char.isDigit
  if whole.isEmpty ∨ (1 < whole.length ∧ whole.head? = some '0') then none
  let (fraction, input) ← parseFraction? input
  let (exponent, input) ← parseExponent? input
  let value := digitsValue (whole ++ fraction)
  let number :=
    Binary64.ofDecimal negative value (exponent.getD 0 - (fraction.length : Int))
  if fraction.isEmpty ∧ exponent.isNone ∧ !(negative && value == 0) then
    if value < UInt64.size ∨ number.isFinite then
      some (.integer (if negative then -(value : Int) else value), input)
    else none
  else if number.isFinite then some (.binary number, input)
  else none

mutual

/-- A value, after any blanks. -/
def parseValue : (fuel : Nat) → List Char → Option (Json × List Char)
  | 0, _ => none
  | fuel + 1, input =>
      match skipBlanks input with
      | [] => none
      | '\x22' :: rest =>
          (parseText (rest.length + 1) [] rest).map
            fun (value, rest) => (.text value, rest)
      | '[' :: rest =>
          match skipBlanks rest with
          | ']' :: rest => some (.array [], rest)
          | rest => parseItems fuel [] rest
      | '\x7b' :: rest =>
          match skipBlanks rest with
          | '\x7d' :: rest => some (.object [], rest)
          | rest => parseFields fuel [] rest
      | 't' :: rest =>
          (expect? ['r', 'u', 'e'] rest).map fun rest => (.boolean true, rest)
      | 'f' :: rest =>
          (expect? ['a', 'l', 's', 'e'] rest).map
            fun rest => (.boolean false, rest)
      | 'n' :: rest =>
          (expect? ['u', 'l', 'l'] rest).map fun rest => (.null, rest)
      | char :: rest =>
          (parseNumber? (char :: rest)).map
            fun (value, rest) => (.number value, rest)

/-- The items of an array up to its closing bracket. -/
def parseItems : (fuel : Nat) → List Json → List Char →
    Option (Json × List Char)
  | 0, _, _ => none
  | fuel + 1, reversed, input =>
      match parseValue fuel input with
      | none => none
      | some (item, rest) =>
          match skipBlanks rest with
          | ',' :: rest => parseItems fuel (item :: reversed) rest
          | ']' :: rest => some (.array (item :: reversed).reverse, rest)
          | _ => none

/-- The fields of an object up to its closing brace. -/
def parseFields : (fuel : Nat) → List (String × Json) → List Char →
    Option (Json × List Char)
  | 0, _, _ => none
  | fuel + 1, fields, input =>
      match skipBlanks input with
      | '\x22' :: rest =>
          match parseText (rest.length + 1) [] rest with
          | none => none
          | some (name, rest) =>
              match skipBlanks rest with
              | ':' :: rest =>
                  match parseValue fuel rest with
                  | none => none
                  | some (value, rest) =>
                      let fields := setField name value fields
                      match skipBlanks rest with
                      | ',' :: rest => parseFields fuel fields rest
                      | '\x7d' :: rest => some (.object fields, rest)
                      | _ => none
              | _ => none
      | _ => none

end

/-- Read a text that holds one value and nothing else but blanks. -/
def parse? (text : String) : Option Json :=
  let input := text.toList
  match parseValue (2 * input.length + 2) input with
  | some (value, rest) => if (skipBlanks rest).isEmpty then some value else none
  | none => none

end ScopedQuery.Json
