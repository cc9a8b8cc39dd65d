/-
Module: ScopedQuery.Proofs.Parts
Purpose: The nodes inside an expression, and those of them that no reference
  hides from the scope in which the expression stands.
Trusted boundary: none
Main exports:
  Expr.children, Expr.Part, Expr.Exposed, Expr.iff_forall_parts,
  Expr.wellFormed_iff_children, Expr.wellFormed_iff_parts
-/
import ScopedQuery.Expr.Basic

namespace ScopedQuery.Expr

/-!
Only a reference changes the scope in which its child is read.  So the parts of
an expression are all nodes in it, and the exposed ones are those that are
reached without going through a reference: they are resolved where the
expression itself is resolved.
-/

/-- The expressions immediately inside a node. -/
def children : Expr → List Expr
  | .aliased inner _ => [inner]
  | .reference inner _ => [inner]
  | .nullable operand => [operand]
  | .convert operand _ => [operand]
  | .select _ projection => projection
  | _ => []

/-- A node is the expression itself or stands somewhere inside it. -/
inductive Part (node : Expr) : Expr → Prop where
  | self : Part node node
  | inside {child expr : Expr} (member : child ∈ expr.children)
      (part : Part node child) : Part node expr

/-- The node is a reference. -/
def IsReference (expr : Expr) : Prop :=
  ∃ inner scope, expr = .reference inner scope

/-- A node of the expression that is not underneath a reference of it. -/
inductive Exposed (node : Expr) : Expr → Prop where
  | self : Exposed node node
  | inside {child expr : Expr} (uncovered : ¬ expr.IsReference)
      (member : child ∈ expr.children) (exposed : Exposed node child) :
      Exposed node expr

/-- A child is smaller than its node. -/
theorem sizeOf_lt_of_mem_children {child expr : Expr}
    (member : child ∈ expr.children) : sizeOf child < sizeOf expr := by
  cases expr with
  | select scope projection =>
      have smaller : sizeOf child < sizeOf projection :=
        List.sizeOf_lt_of_mem member
      simp only [select.sizeOf_spec]
      omega
  | aliased inner aliasName | reference inner scope | nullable inner
  | convert inner targetType =>
      obtain rfl := List.mem_singleton.mp member
      simp only [aliased.sizeOf_spec, reference.sizeOf_spec,
        nullable.sizeOf_spec, convert.sizeOf_spec]
      omega
  | _ => cases member

/-- What holds of a node whenever it holds of its children holds of every
expression. -/
theorem induction_on_children {motive : Expr → Prop}
    (step : ∀ expr : Expr,
      (∀ child ∈ expr.children, motive child) → motive expr)
    (expr : Expr) : motive expr :=
  step expr fun child member =>
    have := sizeOf_lt_of_mem_children member
    induction_on_children step child
termination_by sizeOf expr

/-- What holds of a node exactly when something is true of the node and it holds of
the children, holds of an expression exactly when that is true of all its parts. -/
theorem iff_forall_parts {holds root : Expr → Prop}
    (step : ∀ expr : Expr,
      holds expr ↔ root expr ∧ ∀ child ∈ expr.children, holds child)
    (expr : Expr) : holds expr ↔ ∀ node, Part node expr → root node := by
  induction expr using induction_on_children with
  | step expr inductionHypothesis =>
      rw [step expr]
      constructor
      · rintro ⟨here, below⟩ node part
        cases part with
        | self => exact here
        | inside member part =>
            exact (inductionHypothesis _ member).mp (below _ member) node part
      · intro everywhere
        refine ⟨everywhere expr .self, ?_⟩
        intro child member
        apply (inductionHypothesis child member).mpr
        intro node part
        exact everywhere node (.inside member part)

/-! ## Well-formedness -/

theorem wellFormedItems_iff (items : List Expr) :
    WellFormedItems items ↔ ∀ item ∈ items, item.WellFormed := by
  induction items with
  | nil => simp [WellFormedItems]
  | cons item items inductionHypothesis =>
      simp [WellFormedItems, inductionHypothesis]

/-- A node is well formed when its children are and, if it is a reference, what
it sees has a name. -/
theorem wellFormed_iff_children (expr : Expr) :
    expr.WellFormed ↔
      (∀ inner scope, expr = .reference inner scope →
        inner.isReferenceable = true) ∧
      ∀ child ∈ expr.children, child.WellFormed := by
  cases expr <;> simp [WellFormed, children, wellFormedItems_iff]

/-- Well-formedness is a condition on every reference anywhere inside. -/
theorem wellFormed_iff_parts (expr : Expr) :
    expr.WellFormed ↔
      ∀ inner scope, Part (.reference inner scope) expr →
        inner.isReferenceable = true := by
  rw [iff_forall_parts wellFormed_iff_children expr]
  constructor
  · intro named inner scope part
    exact named _ part inner scope rfl
  · rintro named node part inner scope rfl
    exact named inner scope part

/-- The parts of a well-formed expression are well formed. -/
theorem WellFormed.of_part {node expr : Expr} (wellFormed : expr.WellFormed)
    (part : Part node expr) : node.WellFormed := by
  induction part with
  | self => exact wellFormed
  | inside member part inductionHypothesis =>
      exact inductionHypothesis
        (((wellFormed_iff_children _).mp wellFormed).2 _ member)

end ScopedQuery.Expr
