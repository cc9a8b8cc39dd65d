/-
Module: ScopedQuery.Text.Quoted
Purpose: Showing arbitrary bytes as quoted text.
Trusted boundary: agreement with the platform's way to show a text that is not
  UTF-8 is assumed, not proved
Main exports:
  Scanned, scan, quoteBytes
-/
import ScopedQuery.Text.Hexadecimal
import ScopedQuery.Text.Unprintable

namespace ScopedQuery.Text

/-!
Bytes are split into the characters that they encode in UTF-8 and the bytes
that belong to no character.  Between the quotes a printable character stands
for itself, and everything else is escaped, so that the bytes can be told from
what is shown.
-/

/-- A character, or a byte that belongs to none. -/
inductive Scanned where
  | char (value : Char)
  | stray (value : UInt8)
deriving Repr, Inhabited, DecidableEq

/-- The characters and stray bytes from an offset on. -/
def scanFrom (bytes : ByteArray) (offset : Nat) : List Scanned :=
  if inside : offset < bytes.size then
    match bytes.utf8DecodeChar? offset with
    | some char => .char char :: scanFrom bytes (offset + char.utf8Size)
    | none => .stray bytes[offset] :: scanFrom bytes (offset + 1)
  else []
termination_by bytes.size - offset
decreasing_by
  · have := char.utf8Size_pos
    omega
  · omega

/-- The characters and stray bytes of a byte array. -/
def scan (bytes : ByteArray) : List Scanned :=
  scanFrom bytes 0

/-- A character between double quotes. -/
def quoteChar (char : Char) : List Char :=
  if char = '\x00' then ['\\', '0']
  else if char = '\t' then ['\\', 't']
  else if char = '\r' then ['\\', 'r']
  else if char = '\n' then ['\\', 'n']
  else if char = '\\' ∨ char = '\x22' then ['\\', char]
  else if isUnprintable char then
    ['\\', 'u', '\x7b'] ++ Nat.toDigits 16 char.toNat ++ ['\x7d']
  else [char]

/-- A stray byte between double quotes. -/
def quoteByte (byte : UInt8) : List Char :=
  ['\\', 'x'] ++ (hexDigits 2 byte.toNat).map Char.toUpper

/-- A character or stray byte between double quotes. -/
def Scanned.quote : Scanned → List Char
  | .char value => quoteChar value
  | .stray value => quoteByte value

/-- Bytes as quoted text. -/
def quoteBytes (bytes : ByteArray) : String :=
  "\"" ++ String.ofList ((scan bytes).flatMap Scanned.quote) ++ "\""

end ScopedQuery.Text
