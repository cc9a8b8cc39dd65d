/-
Module: ScopedQuery.Log
Purpose: Records of what lifting, flattening and the loading of settings did.
Trusted boundary: none
Main exports:
  LogRecord, LogRecord.render
-/
import ScopedQuery.Config.Basic
import ScopedQuery.Expr.Display

namespace ScopedQuery

/-- Something worth a record. -/
inductive LogRecord where
  | lifting (expr : Expr) (scopeAlias : String)
  | notLiftable (expr : Expr)
  | inlining (expr : Expr) (scopeAlias : String)
  | aliasing (expr : Expr) (name scopeAlias : String)
  | loaded (config : Config)
deriving Repr, Inhabited

namespace LogRecord

/-- The level of a record. -/
def level : LogRecord → String
  | .lifting _ _ => "DEBUG"
  | .notLiftable _ => "TRACE"
  | .inlining _ _ => "TRACE"
  | .aliasing _ _ _ => "DEBUG"
  | .loaded _ => "INFO"

/-- The text of a record.  Loaded settings are valid, so their alias prefix
needs no escapes between its quotes. -/
def text : LogRecord → String
  | .lifting expr scopeAlias =>
      "Lifting " ++ expr.render ++ " into scope '" ++ scopeAlias ++ "'"
  | .notLiftable expr =>
      "Not liftable, caller must inline: " ++ expr.render
  | .inlining expr scopeAlias =>
      "Inlining simple projection " ++ expr.render ++ " from '" ++
        scopeAlias ++ "'"
  | .aliasing expr name scopeAlias =>
      "Aliasing " ++ expr.render ++ " as '" ++ name ++ "' inside '" ++
        scopeAlias ++ "'"
  | .loaded config =>
      "ResolverConfig: ResolverConfig \x7b alias_prefix: \"" ++
        config.aliasPrefix ++ "\", max_lift_depth: " ++
        toString config.maxLiftDepth.toNat ++ " \x7d"

/-- The level and the text. -/
def render (record : LogRecord) : String :=
  record.level ++ " " ++ record.text

end LogRecord

/-- The record of an attempt to lift an expression. -/
def Expr.liftRecord (expr : Expr) (scope : Table) : LogRecord :=
  if expr.isReferenceable then .lifting expr scope.aliasName
  else .notLiftable expr

end ScopedQuery
