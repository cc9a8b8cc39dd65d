/-
Module: ScopedQuery.SourceId
Purpose: Identities of the clauses and tables that bring expressions into a
  query.
Trusted boundary: agreement with the texts that uuid 1.16 reads and writes is
  assumed, not proved
Main exports:
  SourceId, SourceId.parse?, SourceId.render
-/
import ScopedQuery.Json.Basic
import ScopedQuery.Text.Hexadecimal

namespace ScopedQuery

/-!
An identity is a universally unique identifier: one hundred and twenty-eight
bits, written as thirty-two hexadecimal digits in five groups.  Reading also
takes the digits without groups, and the grouped form in braces or after a URN
prefix.
-/

/-- The identity of a clause or table of a query. -/
structure SourceId where
  value : BitVec 128
deriving Repr, Inhabited, DecidableEq

namespace SourceId

/-- Lengths of the five groups of digits. -/
def groupWidths : List Nat := [8, 4, 4, 4, 12]

/-- Cut digits into groups of the given widths, with a hyphen between two. -/
def joinGroups : List Nat → List Char → List Char
  | [], digits => digits
  | [_], digits => digits
  | width :: widths, digits =>
      digits.take width ++ '-' :: joinGroups widths (digits.drop width)

/-- Remove the hyphens between groups of exactly the given widths. -/
def splitGroups? : List Nat → List Char → Option (List Char)
  | [], input => if input.isEmpty then some [] else none
  | [width], input => if input.length = width then some input else none
  | width :: widths, input =>
      match input.drop width with
      | '-' :: rest => (splitGroups? widths rest).map (input.take width ++ ·)
      | _ => none

/-- Thirty-two digits in either case. -/
def ofDigits? (digits : List Char) : Option SourceId :=
  if digits.length = 32 then
    (Text.hexValue? digits).map fun value => ⟨BitVec.ofNat 128 value⟩
  else none

/-- Thirty-two digits in hyphenated groups. -/
def ofGroups? (input : List Char) : Option SourceId :=
  (splitGroups? groupWidths input).bind ofDigits?

/-- Remove the braces around a form. -/
def dropBraces? : List Char → Option (List Char)
  | '\x7b' :: input =>
      if input.getLast? = some '\x7d' then some input.dropLast else none
  | _ => none

/-- The URN prefix in lower case. -/
def urnPrefix : List Char := "urn:uuid:".toList

/-- Remove the URN prefix, whose letters may be in either case. -/
def dropUrn? (input : List Char) : Option (List Char) :=
  let head := input.take urnPrefix.length
  if head.map Char.toLower = urnPrefix then some (input.drop urnPrefix.length)
  else none

/-- Read an identity in any of its written forms. -/
def parse? (text : String) : Option SourceId :=
  let input := text.toList
  ofDigits? input
    |>.or (ofGroups? input)
    |>.or ((dropBraces? input).bind ofGroups?)
    |>.or ((dropUrn? input).bind ofGroups?)

/-- The lower-case hyphenated form. -/
def render (source : SourceId) : String :=
  String.ofList (joinGroups groupWidths (Text.hexDigits 32 source.value.toNat))

/-- Read an identity from a JSON string. -/
def decode? : Json → Option SourceId
  | .text text => parse? text
  | _ => none

/-- Write an identity as a JSON string. -/
def encode (source : SourceId) : Json :=
  .text source.render

end SourceId

end ScopedQuery
