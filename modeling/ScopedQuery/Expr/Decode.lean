/-
Module: ScopedQuery.Expr.Decode
Purpose: Reading expressions from JSON values, first fault first.
Trusted boundary: agreement with the JSON forms that serde 1 derives is assumed,
  not proved
Main exports:
  DecodeError, DecodeError.message?, Expr.decode, Select.decode
-/
import ScopedQuery.Expr.Display
import ScopedQuery.Expr.NodeKind

namespace ScopedQuery

/-!
Reading goes through a value in the order in which it is written and stops at
the first fault.  A missing field is noticed after those that are present, and
a superfluous array item after those that have a name.  A reference is checked
once both its fields have been read, so an ill-formed reference inside another
is reported before the outer one.
-/

/-- Why a JSON value is no expression. -/
inductive DecodeError where
  | malformed
  | illFormedReference (scopeAlias : String) (inner : Expr)
deriving Repr, Inhabited

/-- The text of a fault that has one. -/
def DecodeError.message? : DecodeError → Option String
  | .malformed => none
  | .illFormedReference scopeAlias inner =>
      some ("column reference into '" ++ scopeAlias ++ "' cannot wrap " ++
        inner.render)

/-! ## Reading records -/

namespace Record

/-- The value of an option, or a malformed value. -/
def required {value : Type} : Option value → Except DecodeError value
  | some found => .ok found
  | none => .error .malformed

variable {part first second : Type}

/-- Take one entry of a record of two fields.  An unknown name is ignored. -/
def readEntry
    (firstName : String) (readFirst : part → Except DecodeError first)
    (secondName : String) (readSecond : part → Except DecodeError second)
    (found : Option first × Option second) (entry : String × part) :
    Except DecodeError (Option first × Option second) :=
  if entry.1 = firstName then
    (readFirst entry.2).map fun value => (some value, found.2)
  else if entry.1 = secondName then
    (readSecond entry.2).map fun value => (found.1, some value)
  else .ok found

/-- Read a record of two fields. -/
def readPair (json : Json)
    (firstName : String) (readFirst : json.Part → Except DecodeError first)
    (secondName : String) (readSecond : json.Part → Except DecodeError second) :
    Except DecodeError (first × second) := do
  let names := [firstName, secondName]
  let parts ← required (json.parts? names)
  let found ←
    parts.foldlM (readEntry firstName readFirst secondName readSecond)
      (none, none)
  if json.fitsRecord names then
    return (← required found.1, ← required found.2)
  else throw .malformed

/-- Read a record of one field. -/
def readSingle (json : Json)
    (name : String) (read : json.Part → Except DecodeError first) :
    Except DecodeError first := do
  let parts ← required (json.parts? [name])
  let found ←
    parts.foldlM
      (fun (found : Option first) entry =>
        if entry.1 = name then (read entry.2).map some else .ok found)
      none
  if json.fitsRecord [name] then required found else throw .malformed

/-- Read the items of an array, in their order. -/
def readItems (json : Json) (read : json.Part → Except DecodeError first) :
    Except DecodeError (List first) := do
  let items ← required json.items?
  items.mapM read

/-- Read a string. -/
def readText (json : Json) : Except DecodeError String :=
  required json.text?

end Record

/-! ## Reading expressions -/

namespace Expr

/-- A reference, which has to see a node with a name. -/
def checkedReference (inner : Expr) (scope : Table) :
    Except DecodeError Expr :=
  if inner.isReferenceable then .ok (.reference inner scope)
  else .error (.illFormedReference scope.aliasName inner)

/-- Read an expression. -/
def decode (json : Json) : Except DecodeError Expr :=
  match json with
  | .object [(tag, body)] =>
      match NodeKind.ofTag? tag with
      | none => .error .malformed
      | some .column => (Record.required (Column.decode? body)).map .column
      | some .aliased => do
          let (inner, aliasName) ← Record.readPair body
            "expr" (fun part => decode part.val)
            "alias" (fun part => Record.readText part.val)
          return .aliased inner aliasName
      | some .reference => do
          let (inner, scope) ← Record.readPair body
            "expr" (fun part => decode part.val)
            "table" (fun part => Record.required (Table.decode? part.val))
          checkedReference inner scope
      | some .nullable => do
          let operand ← Record.readSingle body
            "operand" (fun part => decode part.val)
          return .nullable operand
      | some .convert => do
          let (operand, targetType) ← Record.readPair body
            "operand" (fun part => decode part.val)
            "target_type" (fun part => Record.readText part.val)
          return .convert operand targetType
      | some .table => (Record.required (Table.decode? body)).map .table
      | some .select => do
          let (scope, projection) ← Record.readPair body
            "table" (fun part => Record.required (Table.decode? part.val))
            "projection" (fun part =>
              Record.readItems part.val fun item => decode item.val)
          return .select scope projection
      | some .constant =>
          (Record.required (Literal.decode? body)).map .constant
      | some .parameter => (Record.readText body).map .parameter
      | some .other => (Record.readText body).map .other
  | _ => .error .malformed
termination_by json.size
decreasing_by
  all_goals
    simp only [Json.size, Json.sizeFields]
    omega

end Expr

/-- Read a nested query from its record. -/
def Select.decode (json : Json) : Except DecodeError Select := do
  let (scope, projection) ← Record.readPair json
    "table" (fun part => Record.required (Table.decode? part.val))
    "projection" (fun part =>
      Record.readItems part.val fun item => Expr.decode item.val)
  return ⟨scope, projection⟩

end ScopedQuery
