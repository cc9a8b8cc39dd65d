/-
Module: ScopedQuery.Workspace.Step
Purpose: What can be done in a workspace, and what it answers.
Trusted boundary: none
Main exports:
  TableForm, ExprForm, Step, StepError, Answer
-/
import ScopedQuery.Expr.Decode
import ScopedQuery.Flattening.Basic

namespace ScopedQuery

/-!
A workspace keeps tables, expressions and lists of expressions under names.  A
form says how to make a new table or expression out of named ones; a step binds
what a form makes, or flattens, or asks a question.
-/

/-- A way to make a table. -/
inductive TableForm where
  | physical (name aliasName source : String)
  | subquery (aliasName source : String)
  | decoded (json : Json)
deriving Repr, Inhabited

/-- A way to make an expression.  Operands, tables and lists are given by their
names in the workspace. -/
inductive ExprForm where
  | column (propertyName columnName table : String)
  | aliased (operand aliasName : String) (times : Nat)
  | nullable (operand : String) (times : Nat)
  | convert (operand targetType : String) (times : Nat)
  | constant (json : Json)
  | float (value : Binary64)
  | parameter (name : String)
  | other (text : String)
  | decoded (json : Json)
  | table (table : String)
  | select (list : Option String) (projection : List String)
      (aliasName source : String)
  | strip (operand : String)
  | pick (index : Nat) (list : String)
  | reload (operand : String)
  | lift (operand table : String) (times : Nat)
deriving Repr, Inhabited

/-- Flattening one nested query after another: at each level the list and the
further expressions are projected by a new query, and what the enclosing query
sees of them is the list of the next level. -/
structure Nesting where
  list : String
  aliasName : String
  source : String
  projection : List String
  times : Nat
deriving Repr, Inhabited

/-- Something to do in a workspace. -/
inductive Step where
  | configure (json : Option Json)
  | bindTable (form : TableForm) (name : String)
  | bindExpr (form : ExprForm) (name : String)
  | flatten (select list name : String)
  | nest (nesting : Nesting)
  | inspect (expr : String)
  | encode (expr : String)
  | compare (left right : String)
deriving Repr, Inhabited

/-- Why a step fails. -/
inductive StepError where
  | unbound (name : String)
  | badSource
  | undecodable (error : DecodeError)
  | unflattenable (error : FlattenError)
  | unflattenableAt (level : Nat) (error : FlattenError)
  | notASelect
deriving Repr, Inhabited

/-- What a step answers.  A form that makes nothing is answered by `absent`. -/
inductive Answer where
  | configured (config : Config)
  | table (table : Table)
  | expr (expr : Expr)
  | absent
  | flattened (result : Flattened) (input : Expr)
  | nested (list : List Expr)
  | inspected (expr : Expr)
  | encoded (json : Json)
  | compared (same : Bool)
deriving Repr, Inhabited

end ScopedQuery
