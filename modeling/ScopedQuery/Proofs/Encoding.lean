/-
Module: ScopedQuery.Proofs.Encoding
Purpose: Identities, tables, columns and literals read back from the form in which
  they are written, and so do the records of a node.
Trusted boundary: that of SourceId and of the JSON forms; the proofs add none
Main exports:
  SourceId.splitGroups?_joinGroups, SourceId.parse?_render,
  Table.decode?_encode, Column.decode?_encode, Literal.decode?_encode,
  Record.readPair_object, Record.readSingle_object, Record.readItems_array
-/
import Mathlib
import ScopedQuery.Expr.Decode
import ScopedQuery.Expr.Encode

namespace ScopedQuery

/-!
An identity is written with hyphens, so its written form is too long to be taken
for digits without groups, and cutting the groups out again gives the digits.
The fields of a record are written in the order in which they are declared, and
reading takes them in the order in which they are written.
-/

/-! ## Identities -/

namespace SourceId

/-- A group is split off at the hyphen behind it. -/
theorem splitGroups?_cons {width : Nat} {widths : List Nat}
    {group rest : List Char} (several : widths ≠ [])
    (complete : group.length = width) :
    splitGroups? (width :: widths) (group ++ '-' :: rest) =
      (splitGroups? widths rest).map (group ++ ·) := by
  cases widths with
  | nil => exact absurd rfl several
  | cons next widths =>
      rw [splitGroups?, List.drop_left' complete, List.take_left' complete]
      · rfl
      · exact List.cons_ne_nil next widths

/-- Groups that were joined are split again. -/
theorem splitGroups?_joinGroups {widths : List Nat} {digits : List Char}
    (complete : digits.length = widths.sum) :
    splitGroups? widths (joinGroups widths digits) = some digits := by
  fun_induction joinGroups widths digits with
  | case1 digits => simpa [splitGroups?] using complete
  | case2 digits width => simpa [splitGroups?] using complete
  | case3 width widths digits several rest =>
      rw [List.sum_cons] at complete
      have inside : (digits.take width).length = width :=
        List.length_take_of_le (by omega)
      have behind : (digits.drop width).length = widths.sum := by
        rw [List.length_drop]
        omega
      rw [splitGroups?_cons several inside, rest behind, Option.map_some,
        List.take_append_drop]

/-- Every group but the first adds a hyphen. -/
theorem length_joinGroups (width : Nat) (widths : List Nat)
    (digits : List Char) :
    (joinGroups (width :: widths) digits).length =
      digits.length + widths.length := by
  induction widths generalizing width digits with
  | nil => rfl
  | cons next widths inductionHypothesis =>
      simp only [joinGroups, List.length_append, List.length_cons,
        inductionHypothesis, List.length_take, List.length_drop]
      omega

/-- The digits of an identity are read back. -/
theorem ofDigits?_hexDigits (source : SourceId) :
    ofDigits? (Text.hexDigits 32 source.value.toNat) = some source := by
  have fits : source.value.toNat < Nat.pow 16 32 := source.value.isLt
  have read := Text.hexValueFrom?_hexDigits 0 32 _ fits
  simp [ofDigits?, Text.length_hexDigits, Text.hexValue?, read]

/-- Digits in groups are read as the digits: the hyphens make them too long for
the form without groups. -/
theorem parse?_joinGroups {digits : List Char} {source : SourceId}
    (complete : digits.length = 32) (read : ofDigits? digits = some source) :
    parse? (String.ofList (joinGroups groupWidths digits)) = some source := by
  have tooLong : ofDigits? (joinGroups groupWidths digits) = none := by
    rw [ofDigits?, groupWidths, length_joinGroups, complete]
    rfl
  have grouped : ofGroups? (joinGroups groupWidths digits) = some source := by
    rw [ofGroups?, splitGroups?_joinGroups complete]
    exact read
  simp only [parse?, String.toList_ofList, tooLong, grouped, Option.none_or,
    Option.some_or]

/-- The written form of an identity is read back. -/
theorem parse?_render (source : SourceId) :
    parse? source.render = some source :=
  parse?_joinGroups (Text.length_hexDigits 32 _) (ofDigits?_hexDigits source)

theorem decode?_encode (source : SourceId) :
    decode? source.encode = some source :=
  parse?_render source

end SourceId

/-! ## Tables and columns -/

theorem Property.decode?_encode (property : Property) :
    decode? property.encode = some property := rfl

theorem TableKind.decode?_encode (kind : TableKind) :
    decode? kind.encode = some kind := by
  cases kind with
  | subquery => rfl
  | physical name schema =>
      cases schema with
      | none => rfl
      | some schema => rfl

theorem Table.decode?_encode (table : Table) :
    decode? table.encode = some table := by
  have kind := TableKind.decode?_encode table.kind
  have source := table.source.decode?_encode
  simp [encode, decode?, kind, source, Json.record?, Json.fitsRecord,
    Json.entries?, Json.text?, List.lookup]

theorem Column.decode?_encode (column : Column) :
    decode? column.encode = some column := by
  have property := Property.decode?_encode column.property
  have table := column.table.decode?_encode
  simp [encode, decode?, property, table, Json.record?, Json.fitsRecord,
    Json.entries?, List.lookup]

/-! ## Literals -/

/-- A literal that is no float is read back. -/
theorem Literal.decode?_encode {literal : Literal}
    (exact : ∀ value, literal ≠ .float value) :
    decode? literal.encode = some literal := by
  cases literal with
  | integer value =>
      have bounds : Int64.minValue.toInt ≤ value.toInt ∧
          value.toInt ≤ Int64.maxValue.toInt :=
        ⟨value.minValue_le_toInt, value.toInt_le⟩
      simp only [encode, decode?, Json.variant?, decodeInteger?]
      rw [if_pos bounds, Int64.ofInt_toInt, Option.map_some]
  | float value => exact absurd rfl (exact value)
  | boolean value => rfl
  | text value => rfl
  | null => rfl

/-! ## Records -/

namespace Record

variable {first second : Type} {firstName secondName : String}

/-- A record that was written with two fields is read field by field. -/
theorem readPair_object (different : firstName ≠ secondName)
    (left right : Json) (readFirst : Json → Except DecodeError first)
    (readSecond : Json → Except DecodeError second) :
    readPair (.object [(firstName, left), (secondName, right)])
        firstName (fun part => readFirst part.val)
        secondName (fun part => readSecond part.val) = do
      let foundFirst ← readFirst left
      let foundSecond ← readSecond right
      return (foundFirst, foundSecond) := by
  have apart : secondName ≠ firstName := different.symm
  cases onLeft : readFirst left with
  | error fault =>
      simp [readPair, readEntry, Json.parts?, required, onLeft, bind,
        Except.bind, Except.map]
  | ok foundFirst =>
      cases onRight : readSecond right with
      | error fault =>
          simp [readPair, readEntry, Json.parts?, required, onLeft, onRight,
            apart, bind, Except.bind, Except.map]
      | ok foundSecond =>
          simp [readPair, readEntry, Json.parts?, Json.fitsRecord, required,
            onLeft, onRight, apart, bind, Except.bind, Except.map, pure,
            Except.pure]

/-- A record that was written with one field is read as that field. -/
theorem readSingle_object (name : String) (value : Json)
    (read : Json → Except DecodeError first) :
    readSingle (.object [(name, value)]) name (fun part => read part.val) =
      read value := by
  cases reads : read value with
  | error fault =>
      simp [readSingle, Json.parts?, required, reads, bind, Except.bind,
        Except.map]
  | ok found =>
      simp [readSingle, Json.parts?, Json.fitsRecord, required, reads, bind,
        Except.bind, Except.map, pure, Except.pure]

/-- An array is read item by item. -/
theorem readItems_array (items : List Json)
    (read : Json → Except DecodeError first) :
    readItems (.array items) (fun part => read part.val) =
      items.mapM read := by
  simp [readItems, Json.items?, required, bind, Except.bind,
    Function.comp_def]

end Record

end ScopedQuery
