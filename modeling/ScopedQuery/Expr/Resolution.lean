/-
Module: ScopedQuery.Expr.Resolution
Purpose: The column, property and source that an expression denotes.
Trusted boundary: none
Main exports:
  Expr.column?, Expr.property?, Expr.source?
-/
import ScopedQuery.Expr.Basic

namespace ScopedQuery.Expr

/-!
Three descents through the wrappers of a column.  All three cross aliases.  The
column is also found under a nullable marker but never behind a reference,
which is a new column of the outer scope.  The property survives a reference
but not a nullable marker.  The source of a reference is that of the scope
through which it is seen.
-/

/-- The column that an expression denotes in its own scope. -/
def column? : Expr → Option Column
  | .column exposed => some exposed
  | .aliased inner _ => inner.column?
  | .nullable operand => operand.column?
  | _ => none

/-- The property that an expression stores, across any number of scopes. -/
def property? : Expr → Option Property
  | .column exposed => some exposed.property
  | .aliased inner _ => inner.property?
  | .reference inner _ => inner.property?
  | _ => none

/-- The source of the scope that owns an expression. -/
def source? : Expr → Option SourceId
  | .column exposed => some exposed.table.source
  | .aliased inner _ => inner.source?
  | .reference _ scope => some scope.source
  | _ => none

end ScopedQuery.Expr
