/-
Module: ScopedQuery.Proofs.Operations
Purpose: Whatever is obtained by making, reading, lifting, flattening and taking
  apart, in any order, is well formed.
Trusted boundary: none
Main exports:
  Value, Operation, perform, run, perform_wellFormed, run_wellFormed,
  obtained_references_named
-/
import ScopedQuery.Proofs.WellFormedness

namespace ScopedQuery

/-!
What is obtained is kept in a list, and an operation names what it works on by
its position there, so anything obtained earlier can become a part of what comes
later.  Tables, columns and literals have no references in them and are given
with the operation.  To read the record of one kind of node is to read it under
the tag of that kind, and to change a field of a record is to take the record
apart and to make it anew.
-/

/-- Something that can be obtained. -/
inductive Value where
  | expr (expr : Expr)
  | select (select : Select)
  | flattened (result : Flattened)

namespace Value

/-- The expressions that a value holds. -/
def exprs : Value → List Expr
  | .expr root => [root]
  | .select query => query.projection
  | .flattened result => result.subquery.projection ++ result.outerProjection

/-- The values into which a value can be taken apart. -/
def parts : Value → List Value
  | .expr root => (root.select?.map .select).toList ++ root.children.map .expr
  | .select query => query.projection.map .expr
  | .flattened result =>
      .select result.subquery :: result.outerProjection.map .expr

/-- The expressions that the value holds are well formed. -/
def WellFormed (value : Value) : Prop :=
  ∀ expr ∈ value.exprs, expr.WellFormed

/-- The expression that a value is. -/
def expr? : Value → Option Expr
  | .expr root => some root
  | _ => none

/-- The nested query that a value is. -/
def select? : Value → Option Select
  | .select query => some query
  | _ => none

end Value

/-- An operation.  What it works on is given by positions.  A nested query is one
value and the expression that it can stand as is another; the result of
flattening can be put together from its two fields as well. -/
inductive Operation where
  | column (column : Column)
  | constant (literal : Literal)
  | parameter (name : String)
  | other (text : String)
  | table (table : Table)
  | aliased (operand : Nat) (aliasName : String)
  | nullable (operand : Nat)
  | convert (operand : Nat) (targetType : String)
  | select (scope : Table) (projection : List Nat)
  | embed (select : Nat)
  | readExpr (json : Json)
  | readSelect (json : Json)
  | lift (operand : Nat) (scope : Table)
  | flatten (config : Config) (select : Nat)
  | join (subquery : Nat) (outerProjection : List Nat)
  | take (whole index : Nat)

/-- The expression at a position. -/
def exprAt (values : List Value) (position : Nat) : Option Expr :=
  values[position]?.bind Value.expr?

/-- The nested query at a position. -/
def selectAt (values : List Value) (position : Nat) : Option Select :=
  values[position]?.bind Value.select?

/-- The expressions at some positions. -/
def exprsAt (values : List Value) (positions : List Nat) :
    Option (List Expr) :=
  positions.mapM (exprAt values)

/-- What an operation makes out of what has been obtained, unless it fails. -/
def perform (values : List Value) : Operation → Option Value
  | .column column => some (.expr (.column column))
  | .constant literal => some (.expr (.constant literal))
  | .parameter name => some (.expr (.parameter name))
  | .other text => some (.expr (.other text))
  | .table table => some (.expr (.table table))
  | .aliased operand aliasName =>
      (exprAt values operand).map fun inner => .expr (.aliased inner aliasName)
  | .nullable operand =>
      (exprAt values operand).map fun operand => .expr (.nullable operand)
  | .convert operand targetType =>
      (exprAt values operand).map fun operand =>
        .expr (.convert operand targetType)
  | .select scope projection =>
      (exprsAt values projection).map fun entries => .select ⟨scope, entries⟩
  | .embed select =>
      (selectAt values select).map fun select => .expr select.toExpr
  | .readExpr json => (Expr.decode json).toOption.map .expr
  | .readSelect json => (Select.decode json).toOption.map .select
  | .lift operand scope =>
      (exprAt values operand).bind fun expr => (expr.lift? scope).map .expr
  | .flatten config select =>
      (selectAt values select).bind fun select =>
        (select.flatten config).toOption.map .flattened
  | .join subquery outerProjection =>
      (selectAt values subquery).bind fun subquery =>
        (exprsAt values outerProjection).map fun outer =>
          .flattened ⟨subquery, outer⟩
  | .take whole index =>
      values[whole]?.bind fun whole => whole.parts[index]?

/-- The values after an operation, which are the same if it fails. -/
def after (values : List Value) (operation : Operation) : List Value :=
  values ++ (perform values operation).toList

/-- All values that a sequence of operations obtains, in their order. -/
def run (operations : List Operation) : List Value :=
  operations.foldl after []

/-! ## One operation -/

namespace Value

theorem wellFormed_expr {root : Expr} :
    (Value.expr root).WellFormed ↔ root.WellFormed := by
  simp [WellFormed, exprs]

/-- A part of a well-formed value is well formed. -/
theorem WellFormed.of_mem_parts {value part : Value}
    (wellFormed : value.WellFormed) (member : part ∈ value.parts) :
    part.WellFormed := by
  cases value with
  | expr root =>
      have rootWellFormed := wellFormed_expr.mp wellFormed
      rcases List.mem_append.mp member with asQuery | below
      · obtain ⟨query, isSelect, rfl⟩ :=
          Option.map_eq_some_iff.mp (Option.mem_toList.mp asQuery)
        exact rootWellFormed.select? isSelect
      · obtain ⟨child, isChild, rfl⟩ := List.mem_map.mp below
        have children := ((Expr.wellFormed_iff_children root).mp
          rootWellFormed).2
        exact wellFormed_expr.mpr (children child isChild)
  | select query =>
      obtain ⟨entry, inside, rfl⟩ := List.mem_map.mp member
      exact wellFormed_expr.mpr (wellFormed entry inside)
  | flattened result =>
      rcases List.mem_cons.mp member with rfl | outer
      · intro entry inside
        exact wellFormed entry (List.mem_append_left _ inside)
      · obtain ⟨entry, inside, rfl⟩ := List.mem_map.mp outer
        exact wellFormed_expr.mpr
          (wellFormed entry (List.mem_append_right _ inside))

end Value

section Step

variable {values : List Value}

theorem exprAt_wellFormed {position : Nat} {expr : Expr}
    (wellFormed : ∀ value ∈ values, value.WellFormed)
    (found : exprAt values position = some expr) : expr.WellFormed := by
  obtain ⟨value, here, isExpr⟩ := Option.bind_eq_some_iff.mp found
  cases value with
  | expr root =>
      cases isExpr
      exact Value.wellFormed_expr.mp
        (wellFormed _ (List.mem_of_getElem? here))
  | _ => cases isExpr

theorem selectAt_wellFormed {position : Nat} {select : Select}
    (wellFormed : ∀ value ∈ values, value.WellFormed)
    (found : selectAt values position = some select) : select.WellFormed := by
  obtain ⟨value, here, isSelect⟩ := Option.bind_eq_some_iff.mp found
  cases value with
  | select query =>
      cases isSelect
      exact wellFormed _ (List.mem_of_getElem? here)
  | _ => cases isSelect

theorem exprsAt_wellFormed {positions : List Nat} {exprs : List Expr}
    (wellFormed : ∀ value ∈ values, value.WellFormed)
    (found : exprsAt values positions = some exprs) :
    ∀ expr ∈ exprs, expr.WellFormed := by
  induction positions generalizing exprs with
  | nil =>
      cases found
      simp
  | cons position positions inductionHypothesis =>
      rw [exprsAt, List.mapM_cons] at found
      obtain ⟨first, here, found⟩ := Option.bind_eq_some_iff.mp found
      obtain ⟨rest, later, found⟩ := Option.bind_eq_some_iff.mp found
      cases found
      exact List.forall_mem_cons.mpr
        ⟨exprAt_wellFormed wellFormed here, inductionHypothesis later⟩

/-- An operation on well-formed values makes a well-formed value. -/
theorem perform_wellFormed {operation : Operation} {made : Value}
    (wellFormed : ∀ value ∈ values, value.WellFormed)
    (performed : perform values operation = some made) :
    made.WellFormed := by
  cases operation with
  | column | constant | parameter | other | table =>
      cases performed
      exact Value.wellFormed_expr.mpr trivial
  | aliased operand | nullable operand | convert operand =>
      obtain ⟨inner, found, rfl⟩ := Option.map_eq_some_iff.mp performed
      have inner := exprAt_wellFormed wellFormed found
      exact Value.wellFormed_expr.mpr inner
  | select scope projection =>
      obtain ⟨entries, found, rfl⟩ := Option.map_eq_some_iff.mp performed
      exact exprsAt_wellFormed wellFormed found
  | embed select =>
      obtain ⟨query, found, rfl⟩ := Option.map_eq_some_iff.mp performed
      exact Value.wellFormed_expr.mpr
        (Select.toExpr_wellFormed_iff.mpr (selectAt_wellFormed wellFormed found))
  | readExpr json =>
      obtain ⟨expr, read, rfl⟩ := Option.map_eq_some_iff.mp performed
      exact Value.wellFormed_expr.mpr ((Expr.decode_gives json).of_toOption read)
  | readSelect json =>
      obtain ⟨query, read, rfl⟩ := Option.map_eq_some_iff.mp performed
      exact (Select.decode_gives json).of_toOption read
  | lift operand scope =>
      obtain ⟨expr, found, performed⟩ := Option.bind_eq_some_iff.mp performed
      obtain ⟨lifted, made, rfl⟩ := Option.map_eq_some_iff.mp performed
      exact Value.wellFormed_expr.mpr
        (Expr.lift?_wellFormed (exprAt_wellFormed wellFormed found) made)
  | flatten config select =>
      obtain ⟨query, found, performed⟩ := Option.bind_eq_some_iff.mp performed
      obtain ⟨result, flattened, rfl⟩ := Option.map_eq_some_iff.mp performed
      have query := selectAt_wellFormed wellFormed found
      have both := (Select.flatten_gives query).of_toOption flattened
      exact List.forall_mem_append.mpr ⟨both.subquery, both.outerProjection⟩
  | join subquery outerProjection =>
      obtain ⟨query, found, performed⟩ := Option.bind_eq_some_iff.mp performed
      obtain ⟨outer, foundOuter, rfl⟩ := Option.map_eq_some_iff.mp performed
      exact List.forall_mem_append.mpr
        ⟨selectAt_wellFormed wellFormed found,
          exprsAt_wellFormed wellFormed foundOuter⟩
  | take whole index =>
      obtain ⟨value, found, part⟩ := Option.bind_eq_some_iff.mp performed
      exact (wellFormed value (List.mem_of_getElem? found)).of_mem_parts
        (List.mem_of_getElem? part)

/-- Well-formed values stay well formed when an operation adds to them. -/
theorem after_wellFormed {operation : Operation}
    (wellFormed : ∀ value ∈ values, value.WellFormed) :
    ∀ value ∈ after values operation, value.WellFormed := by
  intro value member
  rcases List.mem_append.mp member with earlier | made
  · exact wellFormed value earlier
  · exact perform_wellFormed wellFormed (Option.mem_toList.mp made)

end Step

/-! ## All operations -/

/-- A sequence of operations on well-formed values leads to well-formed
values. -/
theorem foldl_after_wellFormed {values : List Value}
    (operations : List Operation)
    (wellFormed : ∀ value ∈ values, value.WellFormed) :
    ∀ value ∈ operations.foldl after values, value.WellFormed := by
  induction operations generalizing values with
  | nil => exact wellFormed
  | cons operation operations inductionHypothesis =>
      exact inductionHypothesis (after_wellFormed wellFormed)

/-- Every value that a sequence of operations obtains is well formed. -/
theorem run_wellFormed (operations : List Operation) :
    ∀ value ∈ run operations, value.WellFormed := by
  apply foldl_after_wellFormed
  simp

/-- Whatever operations have been done, in any order and on any earlier results,
every reference anywhere inside what they obtained sees a column, an alias or a
further reference, and is addressed by the alias or the column name of the first
node under its chain of references. -/
theorem obtained_references_named {operations : List Operation} {value : Value}
    {expr : Expr} (obtained : value ∈ run operations)
    (member : expr ∈ value.exprs) :
    expr.WellFormed ∧
      ∀ inner scope, Expr.Part (.reference inner scope) expr →
        inner.isReferenceable = true ∧
          (Expr.reference inner scope).NamedByChainEnd := by
  have wellFormed := run_wellFormed operations value obtained expr member
  refine ⟨wellFormed, ?_⟩
  intro inner scope part
  exact wellFormed.references_named part

/-- A column and a compound expression go through two nested queries, the outer
of which is made of what flattening the inner one gave. -/
def seenTwice : List Operation :=
  [.column ⟨⟨"Name", "name"⟩, .physical "Customers" "c" ⟨1⟩⟩,
    .other "a + b",
    .select (.subquery "t0" ⟨2⟩) [0, 1],
    .flatten {} 2,
    .take 3 1,
    .take 3 2,
    .select (.subquery "t1" ⟨3⟩) [4, 5],
    .flatten {} 6]

/-- The compound expression is addressed by the alias that it got in the inner
query. -/
theorem seenTwice_references_named :
    ∃ value ∈ run seenTwice, ∃ expr ∈ value.exprs,
      expr = .reference
        (.reference (.aliased (.other "a + b") "c0") (.subquery "t0" ⟨2⟩))
        (.subquery "t1" ⟨3⟩) ∧
      expr.WellFormed ∧ expr.NamedByChainEnd := by
  obtain ⟨value, found⟩ : ∃ value, (run seenTwice)[7]? = some value :=
    ⟨_, rfl⟩
  have obtained : value ∈ run seenTwice := List.mem_of_getElem? found
  obtain ⟨expr, here⟩ : ∃ expr, value.exprs[3]? = some expr := by
    cases found
    exact ⟨_, rfl⟩
  have member : expr ∈ value.exprs := List.mem_of_getElem? here
  have shape : expr = .reference
      (.reference (.aliased (.other "a + b") "c0") (.subquery "t0" ⟨2⟩))
      (.subquery "t1" ⟨3⟩) := by
    cases found
    cases here
    rfl
  obtain ⟨wellFormed, named⟩ := obtained_references_named obtained member
  refine ⟨value, obtained, expr, member, shape, wellFormed, ?_⟩
  subst shape
  exact (named _ _ .self).2

end ScopedQuery
