/-
Module: ScopedQuery.Expr.Shape
Purpose: Questions about the outermost nodes of an expression.
Trusted boundary: none
Main exports:
  Expr.withoutConvert, Expr.isSimple, Expr.aliasedColumn?
-/
import ScopedQuery.Expr.Basic

namespace ScopedQuery.Expr

/-!
These questions tell whether an expression can stand inside a larger one as it
is.  They look at one or two nodes and no deeper.
-/

/-- The operand of an outermost conversion.  Only one conversion is removed. -/
def withoutConvert : Expr → Expr
  | .convert operand _ => operand
  | expr => expr

/-- The node can be used inside a larger expression without parentheses and
without a name of its own. -/
def isAtomic : Expr → Bool
  | .constant _ => true
  | .column _ => true
  | .parameter _ => true
  | .reference _ _ => true
  | .aliased _ _ => true
  | _ => false

/-- The expression, less one conversion, can be used inside a larger one. -/
def isSimple (expr : Expr) : Bool :=
  expr.withoutConvert.isAtomic

/-- The column that an alias names immediately. -/
def aliasedColumn? : Expr → Option Column
  | .aliased (.column exposed) _ => some exposed
  | _ => none

/-- The expression is an alias of a column. -/
def isAliasedColumn (expr : Expr) : Bool :=
  expr.aliasedColumn?.isSome

/-- The expression is an alias of a nested query. -/
def isAliasedSelect : Expr → Bool
  | .aliased (.select _ _) _ => true
  | _ => false

end ScopedQuery.Expr
