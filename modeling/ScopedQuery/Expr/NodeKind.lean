/-
Module: ScopedQuery.Expr.NodeKind
Purpose: The kinds of node and the tags that name them in JSON.
Trusted boundary: agreement with the JSON forms that serde 1 derives is assumed,
  not proved
Main exports:
  NodeKind, NodeKind.tag, NodeKind.ofTag?
-/

namespace ScopedQuery

/-- The kind of a node of an expression. -/
inductive NodeKind where
  | column
  | aliased
  | reference
  | nullable
  | convert
  | table
  | select
  | constant
  | parameter
  | other
deriving Repr, Inhabited, DecidableEq

namespace NodeKind

/-- The tag of a node in its JSON form. -/
def tag : NodeKind → String
  | .column => "Column"
  | .aliased => "Alias"
  | .reference => "ColumnReference"
  | .nullable => "Nullable"
  | .convert => "Convert"
  | .table => "Table"
  | .select => "Select"
  | .constant => "Constant"
  | .parameter => "Parameter"
  | .other => "Other"

/-- Every kind of node. -/
def all : List NodeKind :=
  [.column, .aliased, .reference, .nullable, .convert, .table, .select,
    .constant, .parameter, .other]

/-- The kind that a tag names. -/
def ofTag? (text : String) : Option NodeKind :=
  all.find? fun kind => kind.tag == text

/-- A tag names the kind that it was written for. -/
theorem ofTag?_tag (kind : NodeKind) : ofTag? kind.tag = some kind := by
  cases kind <;> decide

end NodeKind

end ScopedQuery
