/-
Module: ScopedQuery.Expr.Basic
Purpose: Relational expressions and the nested queries that project them.
Trusted boundary: none
Main exports:
  Expr, Select, Expr.isReferenceable, Expr.WellFormed, Expr.outerName?
-/
import ScopedQuery.Literal
import ScopedQuery.Table

namespace ScopedQuery

/-!
An expression lives in the scope of a query.  A reference is an expression of a
nested scope seen from one level further out, through the alias of the nested
scope's table.  Only a column, an alias or another reference can be seen that
way, because only these have a name there.  An expression is well formed when
every reference in it obeys this rule.
-/

/-- A node of a relational expression. -/
inductive Expr where
  | column (column : Column)
  | aliased (inner : Expr) (aliasName : String)
  | reference (inner : Expr) (scope : Table)
  | nullable (operand : Expr)
  | convert (operand : Expr) (targetType : String)
  | table (table : Table)
  | select (scope : Table) (projection : List Expr)
  | constant (literal : Literal)
  | parameter (name : String)
  | other (text : String)
deriving Repr, Inhabited

/-- A nested query: the scope that it makes and the expressions that it
projects. -/
structure Select where
  scope : Table
  projection : List Expr
deriving Repr, Inhabited

/-- A nested query under an alias. -/
def Select.under (aliasName : String) (source : SourceId)
    (projection : List Expr) : Select :=
  ⟨.subquery aliasName source, projection⟩

/-- A nested query as an expression. -/
def Select.toExpr (select : Select) : Expr :=
  .select select.scope select.projection

namespace Expr

/-- The nested query that an expression is. -/
def select? : Expr → Option Select
  | .select scope projection => some ⟨scope, projection⟩
  | _ => none

/-- The node has a name that an enclosing scope can use. -/
def isReferenceable : Expr → Bool
  | .column _ => true
  | .aliased _ _ => true
  | .reference _ _ => true
  | _ => false

mutual

/-- Every reference inside the expression sees a referenceable node. -/
def WellFormed : Expr → Prop
  | .aliased inner _ => inner.WellFormed
  | .reference inner _ => inner.isReferenceable = true ∧ inner.WellFormed
  | .nullable operand => operand.WellFormed
  | .convert operand _ => operand.WellFormed
  | .select _ projection => WellFormedItems projection
  | _ => True

/-- Every expression of a list is well formed. -/
def WellFormedItems : List Expr → Prop
  | [] => True
  | item :: items => item.WellFormed ∧ WellFormedItems items

end

/-- The name by which a reference to an expression is addressed: an alias, the
name of a column, or the name of what a further reference sees.  It is empty
for every other node, which well-formed references rule out. -/
def addressedName : Expr → String
  | .column exposed => exposed.name
  | .aliased _ aliasName => aliasName
  | .reference inner _ => inner.addressedName
  | _ => ""

/-- The name by which the enclosing scope knows an expression, if it has one
there. -/
def outerName? (expr : Expr) : Option String :=
  if expr.isReferenceable then some expr.addressedName else none

end Expr

end ScopedQuery
