/-
Module: ScopedQuery.Flattening.Error
Purpose: Why a nested query cannot be flattened.
Trusted boundary: none
Main exports:
  FlattenError, FlattenError.message
-/

namespace ScopedQuery

/-- Why a nested query cannot be flattened. -/
inductive FlattenError where
  | emptyProjection (scopeAlias : String)
  | liftDepthExceeded (scopeAlias : String) (depth : Nat) (limit : UInt32)
deriving Repr, Inhabited, DecidableEq

/-- The fault in words. -/
def FlattenError.message : FlattenError → String
  | .emptyProjection scopeAlias =>
      "Subquery '" ++ scopeAlias ++ "' has no projection to flatten."
  | .liftDepthExceeded scopeAlias depth limit =>
      "Reference into '" ++ scopeAlias ++ "' is nested " ++ toString depth ++
        " levels deep (max " ++ toString limit.toNat ++ ")."

end ScopedQuery
