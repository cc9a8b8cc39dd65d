/-
Module: ScopedQuery.Literal
Purpose: Constant values, their SQL text and their JSON form.
Trusted boundary: agreement with the JSON form that serde 1 derives is assumed,
  not proved
Main exports:
  Literal, Literal.render, Literal.equal, Literal.encode, Literal.decode?
-/
import ScopedQuery.Decimal.Shortest
import ScopedQuery.Json.Basic

namespace ScopedQuery

/-- A constant value. -/
inductive Literal where
  | integer (value : Int64)
  | float (value : Binary64)
  | boolean (value : Bool)
  | text (value : String)
  | null
deriving Repr, Inhabited, DecidableEq

namespace Literal

/-! ## SQL text -/

/-- Characters with every single quote doubled. -/
def doubleQuotes : List Char → List Char
  | [] => []
  | char :: chars =>
      if char = '\x27' then '\x27' :: '\x27' :: doubleQuotes chars
      else char :: doubleQuotes chars

/-- Text in single quotes, with the quotes inside it doubled. -/
def quote (text : String) : String :=
  "'" ++ String.ofList (doubleQuotes text.toList) ++ "'"

/-- The SQL text of a literal. -/
def render : Literal → String
  | .integer value => toString value.toInt
  | .float value => value.render
  | .boolean value => if value then "true" else "false"
  | .text value => quote value
  | .null => "NULL"

/-! ## Comparison -/

/-- Equality of literals of one kind.  Floats compare as numbers, so the two
zeros are equal and a NaN differs from itself. -/
def equal : Literal → Literal → Bool
  | .integer left, .integer right => left == right
  | .float left, .float right => left.equal right
  | .boolean left, .boolean right => left == right
  | .text left, .text right => left == right
  | .null, .null => true
  | _, _ => false

/-! ## JSON form -/

/-- A float as a JSON value.  A NaN or an infinity has no number and becomes
null. -/
def encodeFloat (value : Binary64) : Json :=
  if value.isFinite then .number (.binary value) else .null

/-- A literal as a JSON value, tagged with its kind. -/
def encode : Literal → Json
  | .integer value => .object [("Integer", .number (.integer value.toInt))]
  | .float value => .object [("Float", encodeFloat value)]
  | .boolean value => .object [("Boolean", .boolean value)]
  | .text value => .object [("String", .text value)]
  | .null => .text "Null"

/-- A sixty-four bit integer written without fraction and exponent. -/
def decodeInteger? : Json → Option Int64
  | .number (.integer value) =>
      if Int64.minValue.toInt ≤ value ∧ value ≤ Int64.maxValue.toInt then
        some (Int64.ofInt value)
      else none
  | _ => none

/-- The double nearest to any number. -/
def decodeFloat? : Json → Option Binary64
  | .number (.integer value) => some (Binary64.ofInt value)
  | .number (.binary value) => some value
  | _ => none

/-- Read a literal.  Only the null literal has a bare form. -/
def decode? (json : Json) : Option Literal :=
  match json.variant? with
  | some (.bare "Null") => some .null
  | some (.tagged "Null" .null) => some .null
  | some (.tagged "Integer" body) => (decodeInteger? body).map .integer
  | some (.tagged "Float" body) => (decodeFloat? body).map .float
  | some (.tagged "Boolean" (.boolean value)) => some (.boolean value)
  | some (.tagged "String" (.text value)) => some (.text value)
  | _ => none

end Literal

end ScopedQuery
