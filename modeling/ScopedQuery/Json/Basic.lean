/-
Module: ScopedQuery.Json.Basic
Purpose: JSON values with ordered object fields and exact numbers.
Trusted boundary: agreement with the values and texts of serde_json 1.0 is
  assumed, not proved
Main exports:
  JsonNumber, Json, Json.size, Json.field?, Json.variant?
-/
import ScopedQuery.Binary64

namespace ScopedQuery

/-!
Object fields keep the order in which they were written, because a reader
reports the first fault it meets.  A number written without fraction and
exponent is kept as an integer of any size; every other number is kept as the
double nearest to it.
-/

/-- A JSON number: an integer as written, or the nearest double. -/
inductive JsonNumber where
  | integer (value : Int)
  | binary (value : Binary64)
deriving Repr, Inhabited, DecidableEq

/-- A JSON value. -/
inductive Json where
  | null
  | boolean (value : Bool)
  | number (value : JsonNumber)
  | text (value : String)
  | array (items : List Json)
  | object (fields : List (String × Json))
deriving Repr, Inhabited, BEq

namespace Json

mutual

/-- Number of nodes, every one counted once. -/
def size : Json → Nat
  | .array items => sizeItems items + 1
  | .object fields => sizeFields fields + 1
  | _ => 1

/-- Number of nodes in a list of values. -/
def sizeItems : List Json → Nat
  | [] => 0
  | item :: items => item.size + sizeItems items

/-- Number of nodes in the values of a list of fields. -/
def sizeFields : List (String × Json) → Nat
  | [] => 0
  | (_, value) :: fields => value.size + sizeFields fields

end

/-- An item is no larger than its list. -/
theorem size_le_sizeItems {item : Json} {items : List Json}
    (member : item ∈ items) : item.size ≤ sizeItems items := by
  induction items with
  | nil => cases member
  | cons head rest inductionHypothesis =>
      rw [sizeItems]
      rcases List.mem_cons.mp member with rfl | tail
      · exact Nat.le_add_right _ _
      · exact Nat.le_trans (inductionHypothesis tail) (Nat.le_add_left _ _)

/-- A field's value is no larger than the list of fields. -/
theorem size_le_sizeFields {field : String × Json}
    {fields : List (String × Json)} (member : field ∈ fields) :
    field.2.size ≤ sizeFields fields := by
  induction fields with
  | nil => cases member
  | cons head rest inductionHypothesis =>
      rcases head with ⟨name, value⟩
      rw [sizeFields]
      rcases List.mem_cons.mp member with rfl | tail
      · exact Nat.le_add_right _ _
      · exact Nat.le_trans (inductionHypothesis tail) (Nat.le_add_left _ _)

/-- An item is smaller than the array that holds it. -/
theorem size_lt_array {item : Json} {items : List Json}
    (member : item ∈ items) : item.size < (Json.array items).size := by
  rw [size]
  exact Nat.lt_succ_of_le (size_le_sizeItems member)

/-- A field's value is smaller than the object that holds it. -/
theorem size_lt_object {field : String × Json}
    {fields : List (String × Json)} (member : field ∈ fields) :
    field.2.size < (Json.object fields).size := by
  rw [size]
  exact Nat.lt_succ_of_le (size_le_sizeFields member)

/-- The value of a field of an object. -/
def field? (json : Json) (name : String) : Option Json :=
  match json with
  | .object fields => fields.lookup name
  | _ => none

/-- A value of a sum type: a bare name, or an object whose only key is the name
and whose value is the body. -/
inductive Variant where
  | bare (name : String)
  | tagged (name : String) (body : Json)
deriving Repr, Inhabited

/-- Read a value as a bare or tagged variant. -/
def variant? : Json → Option Variant
  | .text name => some (.bare name)
  | .object [(name, body)] => some (.tagged name body)
  | _ => none

/-- Write a field: an existing one keeps its place and takes the new value. -/
def setField (name : String) (value : Json) :
    List (String × Json) → List (String × Json)
  | [] => [(name, value)]
  | (other, old) :: fields =>
      if other = name then (other, value) :: fields
      else (other, old) :: setField name value fields

end Json

end ScopedQuery
