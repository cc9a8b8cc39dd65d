/-
Module: ScopedQuery.Expr.Equality
Purpose: Comparison of expressions, with floats compared as numbers.
Trusted boundary: none
Main exports:
  Expr.equal, Select.equal
-/
import ScopedQuery.Expr.Basic

namespace ScopedQuery

/-!
Two expressions are equal when they have the same shape and their parts are
equal.  Float literals are compared as numbers, so this is not identity: zeros
of either sign agree, and an expression that holds a NaN differs from itself.
-/

namespace Expr

mutual

/-- Equality of expressions. -/
def equal : Expr → Expr → Bool
  | .column left, .column right => left == right
  | .aliased left leftName, .aliased right rightName =>
      left.equal right && leftName == rightName
  | .reference left leftScope, .reference right rightScope =>
      left.equal right && leftScope == rightScope
  | .nullable left, .nullable right => left.equal right
  | .convert left leftType, .convert right rightType =>
      left.equal right && leftType == rightType
  | .table left, .table right => left == right
  | .select leftScope left, .select rightScope right =>
      leftScope == rightScope && equalItems left right
  | .constant left, .constant right => left.equal right
  | .parameter left, .parameter right => left == right
  | .other left, .other right => left == right
  | _, _ => false

/-- Equality of lists of expressions, item by item. -/
def equalItems : List Expr → List Expr → Bool
  | [], [] => true
  | left :: lefts, right :: rights =>
      left.equal right && equalItems lefts rights
  | _, _ => false

end

end Expr

/-- Equality of nested queries. -/
def Select.equal (left right : Select) : Bool :=
  left.toExpr.equal right.toExpr

end ScopedQuery
