/-
Module: ScopedQuery.Expr.Lifting
Purpose: Seeing an expression of a nested scope from the enclosing one.
Trusted boundary: none
Main exports:
  Expr.lift?, Expr.liftTimes?, Expr.referenceDepth
-/
import ScopedQuery.Expr.Basic

namespace ScopedQuery.Expr

/-!
Lifting turns a referenceable expression into a reference.  A reference is
itself referenceable, so lifting composes over any number of scopes and the
depth of a reference counts the scopes that it crosses.
-/

/-- The expression as the scope outside `scope` sees it.  An expression without
a name there cannot be lifted. -/
def lift? (expr : Expr) (scope : Table) : Option Expr :=
  if expr.isReferenceable then some (.reference expr scope) else none

/-- Lift again and again through one scope. -/
def liftTimes? (scope : Table) : Nat → Expr → Option Expr
  | 0, expr => some expr
  | times + 1, expr => (expr.lift? scope).bind (liftTimes? scope times)

/-- The number of references stacked on top of one another. -/
def referenceDepth : Expr → Nat
  | .reference inner _ => inner.referenceDepth + 1
  | _ => 0

end ScopedQuery.Expr
