/-
Module: ScopedQuery.Proofs.Relifting
Purpose: Lifting through any number of scopes: that it succeeds, and what is kept
  of the expression that is lifted.
Trusted boundary: none
Main exports:
  Expr.liftThrough?, Expr.peel?, Expr.LiftedThrough,
  Expr.LiftedThrough.lift, Expr.exists_liftedThrough, relifting_composes
-/
import Mathlib.Data.List.Induction
import ScopedQuery.Expr.Lifting
import ScopedQuery.Expr.Resolution
import ScopedQuery.Expr.Shape
import ScopedQuery.Proofs.WellFormedness

namespace ScopedQuery

/-!
A lifted expression is a reference, and a reference can be lifted.  So where the
first step succeeds all others do, and each of them puts one more reference on
top of what there was.  The name and the property come from below and stay;
the source and the loss of the column come from the reference on top.
-/

namespace Expr

/-- The expression as it is seen after a number of scopes, the innermost first:
it is lifted into one after the other. -/
def liftThrough? : List Table → Expr → Option Expr
  | [], expr => some expr
  | scope :: scopes, expr => (expr.lift? scope).bind (liftThrough? scopes)

/-- Take a number of references off the top.  This gives the scopes in the order
in which they come off, and what is under them. -/
def peel? : Nat → Expr → Option (List Table × Expr)
  | 0, expr => some ([], expr)
  | count + 1, .reference inner scope =>
      (inner.peel? count).map fun (scopes, core) => (scope :: scopes, core)
  | _ + 1, _ => none

/-- To lift again and again through one scope is to lift through a list that has
nothing else in it. -/
theorem liftTimes?_eq_liftThrough? (scope : Table) (times : Nat) (expr : Expr) :
    liftTimes? scope times expr =
      expr.liftThrough? (List.replicate times scope) := by
  induction times generalizing expr with
  | zero => rfl
  | succ times inductionHypothesis =>
      rw [liftTimes?, List.replicate_succ, liftThrough?]
      exact Option.bind_congr fun lifted _ => inductionHypothesis lifted

/-- The last step of lifting through a list. -/
theorem liftThrough?_append_singleton (scopes : List Table) (scope : Table)
    (expr : Expr) :
    expr.liftThrough? (scopes ++ [scope]) =
      (expr.liftThrough? scopes).bind fun lifted => lifted.lift? scope := by
  induction scopes generalizing expr with
  | nil => simp [liftThrough?]
  | cons first scopes inductionHypothesis =>
      rw [List.cons_append, liftThrough?, liftThrough?, Option.bind_assoc]
      exact Option.bind_congr fun lifted _ => inductionHypothesis lifted

/-! ## One step -/

/-- What is true of an expression that has been lifted through some scopes, the
innermost first. -/
structure LiftedThrough (scopes : List Table) (expr lifted : Expr) : Prop where
  referenceable : lifted.isReferenceable = true
  peeled : lifted.peel? scopes.length = some (scopes.reverse, expr)
  depth : lifted.referenceDepth = expr.referenceDepth + scopes.length
  name : lifted.outerName? = expr.outerName?
  property : lifted.property? = expr.property?
  wellFormed : expr.WellFormed → lifted.WellFormed

variable {scopes : List Table} {scope : Table} {expr lifted : Expr}

/-- Before the first step an expression is as it is. -/
theorem LiftedThrough.refl (named : expr.isReferenceable = true) :
    expr.LiftedThrough [] expr where
  referenceable := named
  peeled := rfl
  depth := rfl
  name := rfl
  property := rfl
  wellFormed := id

/-- One more step succeeds, and what it gives has been lifted through one more
scope. -/
theorem LiftedThrough.lift (through : LiftedThrough scopes expr lifted)
    (scope : Table) :
    lifted.lift? scope = some (.reference lifted scope) ∧
      LiftedThrough (scopes ++ [scope]) expr (.reference lifted scope) := by
  constructor
  · exact lift?_of_referenceable through.referenceable scope
  · refine ⟨rfl, ?_, ?_, ?_, through.property, ?_⟩
    · simp [peel?, through.peeled]
    · simp [referenceDepth, through.depth, Nat.add_assoc]
    · rw [← through.name]
      simp [outerName?, addressedName, through.referenceable]
    · intro wellFormed
      exact ⟨through.referenceable, through.wellFormed wellFormed⟩

/-! ## All steps -/

/-- An expression that can be referenced is lifted through any scopes. -/
theorem exists_liftedThrough (scopes : List Table)
    (named : expr.isReferenceable = true) :
    ∃ lifted, expr.liftThrough? scopes = some lifted ∧
      LiftedThrough scopes expr lifted := by
  induction scopes using List.reverseRecOn with
  | nil => exact ⟨expr, rfl, .refl named⟩
  | append_singleton scopes scope inductionHypothesis =>
      obtain ⟨lifted, reached, through⟩ := inductionHypothesis
      obtain ⟨lifts, next⟩ := through.lift scope
      refine ⟨.reference lifted scope, ?_, next⟩
      rw [liftThrough?_append_singleton, reached]
      exact lifts

end Expr

/-- Lifting composes.  A column, an alias or a reference is lifted through any
list of scopes that is not empty, without failing at any of them.  The result is
a reference through the last scope.  Under one reference for each scope, the last
on top, it has the expression unchanged.  It is as much deeper, has the name and
the property of the expression and the source of the last scope, denotes no
column, and is simple; and it is well formed if the expression is.  Any other
expression is not lifted even once. -/
theorem relifting_composes (expr : Expr) (scopes : List Table)
    (outermost : Table) :
    (expr.isReferenceable = true →
      (∀ count, ∃ reached,
        expr.liftThrough? ((scopes ++ [outermost]).take count) =
          some reached) ∧
      ∃ lifted inner,
        expr.liftThrough? (scopes ++ [outermost]) = some lifted ∧
        lifted = .reference inner outermost ∧
        lifted.peel? (scopes.length + 1) =
          some (outermost :: scopes.reverse, expr) ∧
        lifted.referenceDepth = expr.referenceDepth + (scopes.length + 1) ∧
        expr.outerName? = some lifted.addressedName ∧
        lifted.property? = expr.property? ∧
        lifted.source? = some outermost.source ∧
        lifted.column? = none ∧
        lifted.isSimple = true ∧
        (expr.WellFormed → lifted.WellFormed)) ∧
    (expr.isReferenceable = false → ∀ scope, expr.lift? scope = none) := by
  constructor
  · intro named
    constructor
    · intro count
      obtain ⟨reached, lifts, -⟩ := Expr.exists_liftedThrough
        ((scopes ++ [outermost]).take count) named
      exact ⟨reached, lifts⟩
    · obtain ⟨inner, lifts, through⟩ := Expr.exists_liftedThrough scopes named
      obtain ⟨last, whole⟩ := through.lift outermost
      refine ⟨.reference inner outermost, inner, ?_, rfl, ?_, ?_, ?_,
        whole.property, rfl, rfl, rfl, whole.wellFormed⟩
      · rw [Expr.liftThrough?_append_singleton, lifts]
        exact last
      · simpa using whole.peeled
      · simpa using whole.depth
      · rw [← whole.name]
        rfl
  · intro unnamed scope
    exact Expr.lift?_of_not_referenceable unnamed scope

end ScopedQuery
