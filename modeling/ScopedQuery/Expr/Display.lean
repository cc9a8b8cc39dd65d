/-
Module: ScopedQuery.Expr.Display
Purpose: The text of an expression.
Trusted boundary: none
Main exports:
  Expr.render, Select.render
-/
import ScopedQuery.Expr.Basic

namespace ScopedQuery

namespace Expr

/-!
Columns, tables, aliases and nested queries are written as in SQL.  The nodes
that have no SQL form of their own are written as calls: `ref`, `nullable` and
`convert`.
-/

mutual

/-- The text of an expression. -/
def render : Expr → String
  | .column exposed => exposed.table.aliasName ++ "." ++ exposed.name
  | .aliased inner aliasName => inner.render ++ " AS " ++ aliasName
  | .reference inner scope =>
      "ref(" ++ scope.aliasName ++ " -> " ++ inner.render ++ ")"
  | .nullable operand => "nullable(" ++ operand.render ++ ")"
  | .convert operand targetType =>
      "convert(" ++ operand.render ++ " as " ++ targetType ++ ")"
  | .table marker => marker.render
  | .select scope projection =>
      "(SELECT " ++ ", ".intercalate (renderItems projection) ++ ") AS " ++
        scope.aliasName
  | .constant literal => literal.render
  | .parameter name => "@" ++ name
  | .other text => text

/-- The texts of a list of expressions. -/
def renderItems : List Expr → List String
  | [] => []
  | item :: items => item.render :: renderItems items

end

theorem renderItems_eq_map (items : List Expr) :
    renderItems items = items.map render := by
  induction items with
  | nil => rfl
  | cons item items inductionHypothesis =>
      simp [renderItems, inductionHypothesis]

end Expr

/-- The text of a nested query. -/
def Select.render (select : Select) : String :=
  select.toExpr.render

end ScopedQuery
