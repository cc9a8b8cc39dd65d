/-
Module: ScopedQuery.Workspace.Basic
Purpose: Running steps in a workspace.
Trusted boundary: none
Main exports:
  Workspace, Workspace.perform, Workspace.records, Workspace.after
-/
import ScopedQuery.Expr.Encode
import ScopedQuery.Expr.Equality
import ScopedQuery.Workspace.Step

namespace ScopedQuery

/-!
Tables, expressions and lists have name spaces of their own, and binding a name
again replaces what it stood for.  A step that fails changes nothing.  Names are
looked up and sources are read in the order in which a step gives them, and the
first fault counts.
-/

/-- Values under names, the latest first. -/
abbrev Bindings (value : Type) := List (String × value)

/-- The state between two steps. -/
structure Workspace where
  config : Config := {}
  tables : Bindings Table := []
  exprs : Bindings Expr := []
  lists : Bindings (List Expr) := []
deriving Repr, Inhabited

namespace Workspace

/-! ## Looking up -/

/-- The value under a name. -/
def find {value : Type} (bindings : Bindings value) (name : String) :
    Except StepError value :=
  match bindings.lookup name with
  | some found => .ok found
  | none => .error (.unbound name)

/-- A source in its written form. -/
def readSource (text : String) : Except StepError SourceId :=
  match SourceId.parse? text with
  | some source => .ok source
  | none => .error .badSource

/-- What decoding gives, as part of a step. -/
def decoded {value : Type} : Except DecodeError value → Except StepError value
  | .ok found => .ok found
  | .error error => .error (.undecodable error)

/-- The value of an option, as part of a step. -/
def decodedOption {value : Type} (found : Option value) :
    Except StepError value :=
  decoded (Record.required found)

/-! ## Making tables and expressions -/

/-- Make a table. -/
def makeTable : TableForm → Except StepError Table
  | .physical name aliasName source => do
      return .physical name aliasName (← readSource source)
  | .subquery aliasName source => do
      return .subquery aliasName (← readSource source)
  | .decoded json => decodedOption (Table.decode? json)

/-- Apply a wrapper a number of times. -/
def wrapTimes (wrap : Expr → Expr) (times : Nat) (expr : Expr) : Expr :=
  Nat.repeat wrap times expr

/-- The entries of an optional list followed by named expressions. -/
def gather (workspace : Workspace) (list : Option String)
    (projection : List String) : Except StepError (List Expr) := do
  let front ←
    match list with
    | some name => find workspace.lists name
    | none => .ok []
  let back ← projection.mapM (find workspace.exprs)
  return front ++ back

/-- Make an expression.  Taking an entry beyond the end of a list, or lifting an
expression that cannot be lifted, makes nothing. -/
def makeExpr (workspace : Workspace) :
    ExprForm → Except StepError (Option Expr)
  | .column propertyName columnName table => do
      let table ← find workspace.tables table
      return some (.column ⟨⟨propertyName, columnName⟩, table⟩)
  | .aliased operand aliasName times => do
      let operand ← find workspace.exprs operand
      return some (wrapTimes (Expr.aliased · aliasName) times operand)
  | .nullable operand times => do
      let operand ← find workspace.exprs operand
      return some (wrapTimes Expr.nullable times operand)
  | .convert operand targetType times => do
      let operand ← find workspace.exprs operand
      return some (wrapTimes (Expr.convert · targetType) times operand)
  | .constant json => do
      return some (.constant (← decodedOption (Literal.decode? json)))
  | .float value => .ok (some (.constant (.float value)))
  | .parameter name => .ok (some (.parameter name))
  | .other text => .ok (some (.other text))
  | .decoded json => do return some (← decoded (Expr.decode json))
  | .table table => do return some (.table (← find workspace.tables table))
  | .select list projection aliasName source => do
      let entries ← workspace.gather list projection
      let source ← readSource source
      return some (Select.under aliasName source entries).toExpr
  | .strip operand => do
      return some (← find workspace.exprs operand).withoutConvert
  | .pick index list => do return (← find workspace.lists list)[index]?
  | .reload operand => do
      let expr ← find workspace.exprs operand
      return some (← decoded (Expr.decode expr.encode))
  | .lift operand table times => do
      let expr ← find workspace.exprs operand
      let table ← find workspace.tables table
      return expr.liftTimes? table times

/-! ## Flattening level after level -/

/-- What a nesting needs, looked up. -/
structure Levels where
  aliasName : String
  source : SourceId
  further : List Expr

/-- The nested query of a level over the list of the level below. -/
def Levels.select (levels : Levels) (level : Nat) (list : List Expr) : Select :=
  .under (levels.aliasName ++ toString level) levels.source
    (list ++ levels.further)

/-- The list after a number of levels, the first of which is numbered
`level`. -/
def Levels.run (levels : Levels) (config : Config) (level : Nat) :
    Nat → List Expr → Except StepError (List Expr)
  | 0, list => .ok list
  | times + 1, list =>
      match (levels.select level list).flatten config with
      | .ok result =>
          levels.run config (level + 1) times result.outerProjection
      | .error error => .error (.unflattenableAt level error)

/-- The records of a number of levels, up to the first that fails. -/
def Levels.records (levels : Levels) (config : Config) (level : Nat) :
    Nat → List Expr → List LogRecord
  | 0, _ => []
  | times + 1, list =>
      let select := levels.select level list
      select.flattenRecords config ++
        match select.flatten config with
        | .ok result =>
            levels.records config (level + 1) times result.outerProjection
        | .error _ => []

/-- Look up the list that a nesting starts from and what its levels need. -/
def findLevels (workspace : Workspace) (nesting : Nesting) :
    Except StepError (List Expr × Levels) := do
  let list ← find workspace.lists nesting.list
  let source ← readSource nesting.source
  let further ← nesting.projection.mapM (find workspace.exprs)
  return (list, ⟨nesting.aliasName, source, further⟩)

/-! ## Steps -/

/-- The nested query under a name. -/
def findSelect (workspace : Workspace) (name : String) :
    Except StepError Select := do
  let expr ← find workspace.exprs name
  match expr.select? with
  | some select => return select
  | none => throw .notASelect

/-- Do a step: the next workspace and the answer, or the first fault. -/
def perform (workspace : Workspace) :
    Step → Except StepError (Workspace × Answer)
  | .configure json => do
      let config ←
        match json with
        | some json => decodedOption (Config.decode? json)
        | none => .ok {}
      return ({ workspace with config }, .configured config)
  | .bindTable form name => do
      let table ← makeTable form
      return ({ workspace with tables := (name, table) :: workspace.tables },
        .table table)
  | .bindExpr form name => do
      match ← workspace.makeExpr form with
      | some expr =>
          return ({ workspace with exprs := (name, expr) :: workspace.exprs },
            .expr expr)
      | none => return (workspace, .absent)
  | .flatten select list name => do
      let select ← workspace.findSelect select
      match select.flatten workspace.config with
      | .ok result =>
          let expr := result.subquery.toExpr
          return ({ workspace with
              exprs := (name, expr) :: workspace.exprs
              lists := (list, result.outerProjection) :: workspace.lists },
            .flattened result select.toExpr)
      | .error error => throw (.unflattenable error)
  | .nest nesting => do
      let (list, levels) ← workspace.findLevels nesting
      let list ← levels.run workspace.config 0 nesting.times list
      return ({ workspace with lists := (nesting.list, list) :: workspace.lists },
        .nested list)
  | .inspect expr => do
      return (workspace, .inspected (← find workspace.exprs expr))
  | .encode expr => do
      return (workspace, .encoded (← find workspace.exprs expr).encode)
  | .compare left right => do
      let left ← find workspace.exprs left
      let right ← find workspace.exprs right
      return (workspace, .compared (left.equal right))

/-- The workspace after a step, which is the same after a failure. -/
def after (workspace : Workspace) (step : Step) : Workspace :=
  match workspace.perform step with
  | .ok (next, _) => next
  | .error _ => workspace

/-- The records of lifting again and again, up to the first failure. -/
def liftRecords (scope : Table) : Nat → Expr → List LogRecord
  | 0, _ => []
  | times + 1, expr =>
      expr.liftRecord scope ::
        match expr.lift? scope with
        | some lifted => liftRecords scope times lifted
        | none => []

/-- The records of a step.  Only lifting and flattening make any. -/
def records (workspace : Workspace) : Step → List LogRecord
  | .bindExpr (.lift operand table times) _ =>
      match find workspace.exprs operand, find workspace.tables table with
      | .ok expr, .ok scope => liftRecords scope times expr
      | _, _ => []
  | .flatten select _ _ =>
      match workspace.findSelect select with
      | .ok select => select.flattenRecords workspace.config
      | .error _ => []
  | .nest nesting =>
      match workspace.findLevels nesting with
      | .ok (list, levels) =>
          levels.records workspace.config 0 nesting.times list
      | .error _ => []
  | _ => []

end Workspace

end ScopedQuery
