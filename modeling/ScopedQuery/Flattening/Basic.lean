/-
Module: ScopedQuery.Flattening.Basic
Purpose: Moving the projection of a nested query into the enclosing one.
Trusted boundary: none
Main exports:
  Flattened, Select.flatten, Select.flattenRecords
-/
import ScopedQuery.Flattening.Decision
import ScopedQuery.Flattening.Error

namespace ScopedQuery

/-!
Flattening carries out the decisions for all entries, or fails at the first one
that stacks more references than the settings allow.  The records of a run end
with those of the failing decision.
-/

/-- A nested query with the aliases that it got, and one expression of the
enclosing query for every entry of its projection. -/
structure Flattened where
  subquery : Select
  outerProjection : List Expr
deriving Repr, Inhabited

/-- The items of a list up to and including the first that fails a test. -/
def upToFirstFailing {item : Type} (test : item → Bool) :
    List item → List item
  | [] => []
  | head :: rest =>
      if test head then head :: upToFirstFailing test rest else [head]

namespace Select

/-- Carry out decisions. -/
def carryOut (scope : Table) (decisions : List Decision) : Flattened :=
  ⟨⟨scope, decisions.map Decision.inner⟩,
    decisions.map (Decision.outer scope)⟩

/-- Flatten a nested query. -/
def flatten (config : Config) (select : Select) :
    Except FlattenError Flattened :=
  if select.projection.isEmpty then
    .error (.emptyProjection select.scope.aliasName)
  else
    let decisions := select.decisions config.aliasPrefix
    match decisions.find? fun decision => !decision.within config.maxLiftDepth with
    | some decision =>
        .error (.liftDepthExceeded select.scope.aliasName decision.depth
          config.maxLiftDepth)
    | none => .ok (carryOut select.scope decisions)

/-- The records of flattening a nested query, whether it succeeds or fails. -/
def flattenRecords (config : Config) (select : Select) : List LogRecord :=
  (upToFirstFailing (Decision.within config.maxLiftDepth)
    (select.decisions config.aliasPrefix)).flatMap
      (Decision.records select.scope)

end Select

end ScopedQuery
