/-
Module: ScopedQuery.Table
Purpose: Scope markers: physical tables and nested queries under an alias, and
  the columns that they expose.
Trusted boundary: agreement with the JSON forms that serde 1 derives is assumed,
  not proved
Main exports:
  Property, TableKind, Table, Column, their text and their JSON forms
-/
import ScopedQuery.Json.Record
import ScopedQuery.SourceId

namespace ScopedQuery

/-!
A table stands for a scope: expressions of the scope are addressed through its
alias, and its source tells which clause of the query brought it in.  A column
belongs to a table and carries the model property that it stores.
-/

/-- A model property and the physical column that stores it. -/
structure Property where
  name : String
  columnName : String
deriving Repr, Inhabited, DecidableEq

/-- What a scope is made of: a physical table, which may name its schema, or a
nested query. -/
inductive TableKind where
  | physical (name : String) (schema : Option String)
  | subquery
deriving Repr, Inhabited, DecidableEq

/-- A scope with the alias by which it is addressed. -/
structure Table where
  kind : TableKind
  aliasName : String
  source : SourceId
deriving Repr, Inhabited, DecidableEq

/-- A physical column exposed by a table. -/
structure Column where
  property : Property
  table : Table
deriving Repr, Inhabited, DecidableEq

/-- The name of the physical column. -/
def Column.name (column : Column) : String :=
  column.property.columnName

/-! ## Properties as JSON -/

namespace Property

/-- Names of the fields in their order. -/
def fieldNames : List String := ["name", "column_name"]

/-- A property as a JSON object. -/
def encode (property : Property) : Json :=
  .object [("name", .text property.name),
    ("column_name", .text property.columnName)]

/-- Read a property from a record. -/
def decode? (json : Json) : Option Property := do
  let fields ← json.record? fieldNames
  let name ← (← fields.lookup "name").text?
  let columnName ← (← fields.lookup "column_name").text?
  some ⟨name, columnName⟩

end Property

/-! ## Kinds of table as JSON -/

namespace TableKind

/-- An absent schema is null. -/
def encodeSchema : Option String → Json
  | some schema => .text schema
  | none => .null

/-- A schema is a string, or null, or missing. -/
def decodeSchema? : Option Json → Option (Option String)
  | some (.text schema) => some (some schema)
  | some .null => some none
  | some _ => none
  | none => some none

/-- A kind of table as a tagged JSON value. -/
def encode : TableKind → Json
  | .subquery => .text "Subquery"
  | .physical name schema =>
      .object [("Table",
        .object [("name", .text name), ("schema", encodeSchema schema)])]

/-- Read a kind of table.  A physical table's body is an object, never an
array. -/
def decode? (json : Json) : Option TableKind :=
  match json.variant? with
  | some (.bare "Subquery") => some .subquery
  | some (.tagged "Subquery" .null) => some .subquery
  | some (.tagged "Table" (.object fields)) => do
      let name ← (← fields.lookup "name").text?
      let schema ← decodeSchema? (fields.lookup "schema")
      some (.physical name schema)
  | _ => none

end TableKind

/-! ## Tables -/

namespace Table

/-- A physical table without a schema. -/
def physical (name aliasName : String) (source : SourceId) : Table :=
  ⟨.physical name none, aliasName, source⟩

/-- A nested query. -/
def subquery (aliasName : String) (source : SourceId) : Table :=
  ⟨.subquery, aliasName, source⟩

/-- The scope is a nested query. -/
def isSubquery (table : Table) : Bool :=
  match table.kind with
  | .subquery => true
  | .physical _ _ => false

/-- The SQL text of a table.  A schema that is given is written even when it is
empty. -/
def render (table : Table) : String :=
  match table.kind with
  | .physical name (some schema) =>
      schema ++ "." ++ name ++ " AS " ++ table.aliasName
  | .physical name none => name ++ " AS " ++ table.aliasName
  | .subquery => "(subquery) AS " ++ table.aliasName

/-- Names of the fields in their order. -/
def fieldNames : List String := ["kind", "alias", "query_source"]

/-- A table as a JSON object. -/
def encode (table : Table) : Json :=
  .object [("kind", table.kind.encode), ("alias", .text table.aliasName),
    ("query_source", table.source.encode)]

/-- Read a table from a record. -/
def decode? (json : Json) : Option Table := do
  let fields ← json.record? fieldNames
  let kind ← TableKind.decode? (← fields.lookup "kind")
  let aliasName ← (← fields.lookup "alias").text?
  let source ← SourceId.decode? (← fields.lookup "query_source")
  some ⟨kind, aliasName, source⟩

end Table

/-! ## Columns as JSON -/

namespace Column

/-- Names of the fields in their order. -/
def fieldNames : List String := ["property", "table"]

/-- A column as a JSON object. -/
def encode (column : Column) : Json :=
  .object [("property", column.property.encode),
    ("table", column.table.encode)]

/-- Read a column from a record. -/
def decode? (json : Json) : Option Column := do
  let fields ← json.record? fieldNames
  let property ← Property.decode? (← fields.lookup "property")
  let table ← Table.decode? (← fields.lookup "table")
  some ⟨property, table⟩

end Column

end ScopedQuery
