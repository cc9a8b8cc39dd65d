/-
Module: ScopedQuery.Json.Record
Purpose: Records presented as objects or as arrays of their fields.
Trusted boundary: agreement with the JSON forms that serde 1 derives is assumed,
  not proved
Main exports:
  Json.Part, Json.parts?, Json.entries?, Json.fitsRecord, Json.record?
-/
import ScopedQuery.Json.Basic

namespace ScopedQuery.Json

/-!
A record is an object with a field for each of its names, or an array of the
fields' values in the order of the names.  An object may hold further fields,
which are ignored.  The entries of a record are named values in the order in
which they were written; each value comes with the proof that it is smaller
than the record, so that a reader of nested records can call itself on it.
-/

/-- A value that is smaller than the given one. -/
abbrev Part (json : Json) := { part : Json // part.size < json.size }

/-- The named parts of a record in the order in which they were written.  Items
beyond the last name are left out. -/
def parts? (names : List String) :
    (json : Json) → Option (List (String × json.Part))
  | .object fields =>
      some (fields.attach.map fun field =>
        (field.val.1, ⟨field.val.2, size_lt_object field.property⟩))
  | .array items =>
      some (names.zip (items.attach.map fun item =>
        ⟨item.val, size_lt_array item.property⟩))
  | _ => none

/-- The items of an array as parts of it. -/
def items? : (json : Json) → Option (List json.Part)
  | .array items =>
      some (items.attach.map fun item =>
        ⟨item.val, size_lt_array item.property⟩)
  | _ => none

/-- The named values of a record in the order in which they were written. -/
def entries? (names : List String) : Json → Option (List (String × Json))
  | .object fields => some fields
  | .array items => some (names.zip items)
  | _ => none

/-- An array has no more items than the record has names. -/
def fitsRecord (names : List String) : Json → Bool
  | .array items => decide (items.length ≤ names.length)
  | _ => true

/-- The named values of a record, which as an array has no item left over. -/
def record? (names : List String) (json : Json) :
    Option (List (String × Json)) :=
  if json.fitsRecord names then json.entries? names else none

/-- The parts are the entries. -/
theorem map_parts? (names : List String) (json : Json) :
    (json.parts? names).map (List.map fun part => (part.1, part.2.val)) =
      json.entries? names := by
  cases json with
  | object fields =>
      simp only [parts?, entries?, Option.map_some, List.map_map]
      exact congrArg some fields.attach_map_subtype_val
  | array items =>
      have values :
          (items.attach.map fun item =>
            (⟨item.val, size_lt_array item.property⟩ :
              (Json.array items).Part)).map Subtype.val = items := by
        simp
      simp only [parts?, entries?, Option.map_some]
      conv => rhs; rw [← values, List.zip_map_right]
      rfl
  | _ => rfl

/-- The text of a string. -/
def text? : Json → Option String
  | .text value => some value
  | _ => none

end ScopedQuery.Json
