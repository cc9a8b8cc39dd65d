/-
Module: ScopedQuery.Flattening.Decision
Purpose: What flattening does with each entry of a projection.
Trusted boundary: none
Main exports:
  Decision, Decision.inner, Decision.outer, Decision.depth, Decision.records,
  Select.decisions
-/
import ScopedQuery.AliasName
import ScopedQuery.Expr.Lifting
import ScopedQuery.Expr.Shape
import ScopedQuery.Log

namespace ScopedQuery

/-!
An entry that can be referenced is lifted.  Another entry that is simple is
inlined: the enclosing query repeats it.  Every other entry first gets an alias
inside the nested query, and that alias is lifted.  The aliases are chosen from
left to right, each one different from the names of all entries and from the
aliases chosen before it.  What is decided does not depend on the limit of
depth, which only tells whether the decisions can be carried out.
-/

/-- What happens to an entry of a projection. -/
inductive Decision where
  | lift (entry : Expr)
  | inline (entry : Expr)
  | name (entry : Expr) (aliasName : String)
deriving Repr, Inhabited

namespace Decision

/-- The entry as it stands in the nested query afterwards. -/
def inner : Decision → Expr
  | .lift entry => entry
  | .inline entry => entry
  | .name entry aliasName => .aliased entry aliasName

/-- The entry as the enclosing query sees it. -/
def outer (scope : Table) : Decision → Expr
  | .lift entry => .reference entry scope
  | .inline entry => entry
  | .name entry aliasName => .reference (.aliased entry aliasName) scope

/-- The number of references that the decision stacks.  An inlined entry is not
counted. -/
def depth : Decision → Nat
  | .lift entry => entry.referenceDepth + 1
  | .inline _ => 0
  | .name _ _ => 1

/-- The decision stacks no more references than allowed. -/
def within (limit : UInt32) (decision : Decision) : Bool :=
  decision.depth ≤ limit.toNat

/-- The records of a decision: the attempt to lift the entry, then what was done
instead. -/
def records (scope : Table) : Decision → List LogRecord
  | .lift entry => [entry.liftRecord scope]
  | .inline entry =>
      [entry.liftRecord scope, .inlining entry scope.aliasName]
  | .name entry aliasName =>
      [entry.liftRecord scope, .aliasing entry aliasName scope.aliasName]

end Decision

/-- The decisions for a list of entries, given the names that are taken. -/
def decideEntries (stem : String) : List String → List Expr → List Decision
  | _, [] => []
  | taken, entry :: entries =>
      if entry.isReferenceable then
        .lift entry :: decideEntries stem taken entries
      else if entry.isSimple then
        .inline entry :: decideEntries stem taken entries
      else
        let aliasName := AliasName.fresh stem taken
        .name entry aliasName ::
          decideEntries stem (aliasName :: taken) entries

namespace Select

/-- The names by which an enclosing query knows the entries. -/
def outerNames (select : Select) : List String :=
  select.projection.filterMap Expr.outerName?

/-- The decisions for the projection of a nested query. -/
def decisions (stem : String) (select : Select) : List Decision :=
  decideEntries stem select.outerNames select.projection

end Select

end ScopedQuery
