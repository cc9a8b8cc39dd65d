/-
Module: ScopedQuery.Proofs.PartialEquivalence
Purpose: Comparison of expressions is symmetric and transitive, and an expression
  compares equal to itself unless a NaN stands in it.
Trusted boundary: none
Main exports:
  Literal.EqualLiterals, Literal.equal_iff, Expr.equal_symm, Expr.equal_trans,
  Expr.equal_self_iff, comparison_is_partial_equivalence
-/
import ScopedQuery.Proofs.Equality
import ScopedQuery.Proofs.NumberComparison

namespace ScopedQuery

/-!
Comparison goes node by node down to the literals, and of the literals only floats
are compared by anything but identity.  So comparison of expressions has the laws
that comparison of floats has, and an expression differs from itself exactly when one
of the floats inside it does.
-/

/-! ## Literals -/

namespace Literal

/-- Two floats that agree as numbers, or one literal of another kind. -/
inductive EqualLiterals : Literal → Literal → Prop where
  | float {left right : Binary64} (numbers : left.equal right = true) :
      EqualLiterals (.float left) (.float right)
  | plain {literal : Literal} (noFloat : ∀ number, literal ≠ .float number) :
      EqualLiterals literal literal

variable {left middle right : Literal}

theorem equal_iff : left.equal right = true ↔ EqualLiterals left right := by
  constructor
  · intro same
    cases left with
    | integer value =>
        cases right with
        | integer other =>
            obtain rfl := eq_of_beq same
            exact .plain nofun
        | _ => exact absurd same Bool.false_ne_true
    | float value =>
        cases right with
        | float other => exact .float same
        | _ => exact absurd same Bool.false_ne_true
    | boolean value =>
        cases right with
        | boolean other =>
            obtain rfl := eq_of_beq same
            exact .plain nofun
        | _ => exact absurd same Bool.false_ne_true
    | text value =>
        cases right with
        | text other =>
            obtain rfl := eq_of_beq same
            exact .plain nofun
        | _ => exact absurd same Bool.false_ne_true
    | null =>
        cases right with
        | null => exact .plain nofun
        | _ => exact absurd same Bool.false_ne_true
  · intro literals
    cases literals with
    | float numbers => exact numbers
    | plain noFloat =>
        cases left with
        | integer value | boolean value | text value =>
            exact beq_self_eq_true value
        | float value => exact absurd rfl (noFloat value)
        | null => rfl

theorem equal_symm (same : left.equal right = true) :
    right.equal left = true := by
  cases equal_iff.mp same with
  | float numbers => exact equal_iff.mpr (.float (Binary64.equal_symm numbers))
  | plain noFloat => exact same

theorem equal_trans (first : left.equal middle = true)
    (second : middle.equal right = true) : left.equal right = true := by
  cases equal_iff.mp first with
  | float numbers =>
      cases equal_iff.mp second with
      | float further =>
          exact equal_iff.mpr (.float (Binary64.equal_trans numbers further))
      | plain noFloat => exact absurd rfl (noFloat _)
  | plain noFloat => exact second

theorem equal_self_iff (literal : Literal) :
    literal.equal literal = true ↔
      ∀ number, literal = .float number → number.isNaN = false := by
  cases literal with
  | float value =>
      refine (Binary64.equal_self_iff value).trans ?_
      simp
  | integer value | boolean value | text value =>
      exact iff_of_true (beq_self_eq_true value) nofun
  | null => exact iff_of_true rfl nofun

end Literal

/-! ## Expressions -/

namespace Expr

variable {left middle right : Expr}

/-! ### Symmetry -/

/-- Nodes agree in either order if comparison of their children has no order. -/
theorem EqualNodes.symm
    (turns : ∀ child ∈ left.children, ∀ {other : Expr},
      child.equal other = true → other.equal child = true)
    (nodes : EqualNodes left right) : EqualNodes right left := by
  cases nodes with
  | column exposed => exact .column exposed
  | @aliased inner _ aliasName inside =>
      exact .aliased aliasName
        (turns inner (List.mem_singleton_self inner) inside)
  | @reference inner _ scope inside =>
      exact .reference scope
        (turns inner (List.mem_singleton_self inner) inside)
  | @nullable inner _ operand =>
      exact .nullable (turns inner (List.mem_singleton_self inner) operand)
  | @convert inner _ targetType operand =>
      exact .convert targetType
        (turns inner (List.mem_singleton_self inner) operand)
  | table marker => exact .table marker
  | select scope items =>
      have both := (List.forall₂_and_left _ _).mpr ⟨turns, items⟩
      exact .select scope (both.imp fun _ _ ⟨turn, same⟩ => turn same).flip
  | constant literal => exact .constant (Literal.equal_symm literal)
  | parameter name => exact .parameter name
  | other text => exact .other text

theorem equal_symm (same : left.equal right = true) :
    right.equal left = true := by
  induction left using induction_on_children generalizing right with
  | step left inductionHypothesis =>
      exact equal_iff.mpr ((equal_iff.mp same).symm inductionHypothesis)

/-! ### Transitivity -/

/-- Lists that compare equal to one list compare equal, if this is so for the items of
the first. -/
theorem forall₂_equal_trans {left middle right : List Expr}
    (carries : ∀ item ∈ left, ∀ {middle right : Expr},
      item.equal middle = true → middle.equal right = true →
        item.equal right = true)
    (first : List.Forall₂ (fun left right => left.equal right = true) left middle)
    (second : List.Forall₂ (fun left right => left.equal right = true)
      middle right) :
    List.Forall₂ (fun left right => left.equal right = true) left right := by
  induction first generalizing right with
  | nil => exact second
  | cons head rest inductionHypothesis =>
      obtain ⟨carriesHead, carriesRest⟩ := List.forall_mem_cons.mp carries
      cases second with
      | cons next others =>
          exact .cons (carriesHead head next)
            (inductionHypothesis carriesRest others)

/-- Two nodes that agree with a third one agree if comparison of their children goes
through the children of the third. -/
theorem EqualNodes.trans
    (carries : ∀ child ∈ left.children, ∀ {middle right : Expr},
      child.equal middle = true → middle.equal right = true →
        child.equal right = true)
    (first : EqualNodes left middle) (second : EqualNodes middle right) :
    EqualNodes left right := by
  cases first with
  | column _ | table _ | parameter _ | other _ => exact second
  | @aliased inner _ aliasName inside =>
      cases second with
      | aliased _ further =>
          exact .aliased aliasName
            (carries inner (List.mem_singleton_self inner) inside further)
  | @reference inner _ scope inside =>
      cases second with
      | reference _ further =>
          exact .reference scope
            (carries inner (List.mem_singleton_self inner) inside further)
  | @nullable inner _ operand =>
      cases second with
      | nullable further =>
          exact .nullable
            (carries inner (List.mem_singleton_self inner) operand further)
  | @convert inner _ targetType operand =>
      cases second with
      | convert _ further =>
          exact .convert targetType
            (carries inner (List.mem_singleton_self inner) operand further)
  | select scope items =>
      cases second with
      | select _ further =>
          exact .select scope (forall₂_equal_trans carries items further)
  | constant literal =>
      cases second with
      | constant further =>
          exact .constant (Literal.equal_trans literal further)

theorem equal_trans (first : left.equal middle = true)
    (second : middle.equal right = true) : left.equal right = true := by
  induction left using induction_on_children generalizing middle right with
  | step left inductionHypothesis =>
      exact equal_iff.mpr
        ((equal_iff.mp first).trans inductionHypothesis (equal_iff.mp second))

/-! ### Comparison with itself -/

/-- A node compares equal to itself when its children do and, if it is a float, it is
no NaN. -/
theorem equal_self_iff_children (expr : Expr) :
    expr.equal expr = true ↔
      (∀ number, expr = .constant (.float number) → number.isNaN = false) ∧
        ∀ child ∈ expr.children, child.equal child = true := by
  cases expr with
  | select scope projection =>
      simp [equal, children, equalItems_iff, List.forall₂_same]
  | constant literal =>
      simp [equal, children, Literal.equal_self_iff]
  | _ => simp [equal, children]

/-- An expression compares equal to itself when no float anywhere inside is a NaN. -/
theorem equal_self_iff (expr : Expr) :
    expr.equal expr = true ↔
      ∀ number, Part (.constant (.float number)) expr →
        number.isNaN = false := by
  rw [iff_forall_parts equal_self_iff_children expr]
  constructor
  · intro numbers number part
    exact numbers _ part number rfl
  · rintro numbers node part number rfl
    exact numbers number part

end Expr

/-- Comparison is symmetric and transitive, and only an expression with a NaN somewhere
inside differs from itself.  It goes node by node, and floats are compared as what their
sixty-four bits stand for: as numbers, of which the two zeros are one, or as infinities
with their sign, while a NaN agrees with nothing. -/
theorem comparison_is_partial_equivalence :
    (∀ left right : Expr, left.equal right = true → right.equal left = true) ∧
    (∀ left middle right : Expr, left.equal middle = true →
      middle.equal right = true → left.equal right = true) ∧
    (∀ expr : Expr, expr.equal expr = true ↔
      ∀ number, Expr.Part (.constant (.float number)) expr →
        number.isNaN = false) ∧
    (∀ left right : Expr,
      left.equal right = true ↔ Expr.EqualNodes left right) ∧
    ∀ left right : Binary64,
      (Expr.constant (.float left)).equal (.constant (.float right)) = true ↔
        left.datum ≠ .notANumber ∧ left.datum = right.datum := by
  refine ⟨?_, ?_, Expr.equal_self_iff, fun _ _ => Expr.equal_iff, ?_⟩
  · intro left right same
    exact Expr.equal_symm same
  · intro left middle right first second
    exact Expr.equal_trans first second
  · intro left right
    exact Binary64.equal_iff_datum

/-- A nested query under an alias, with a float below a conversion and below a
reference. -/
def floatInside (number : Binary64) : Expr :=
  .aliased
    (.select (.subquery "t0" ⟨1⟩)
      [.parameter "p", .nullable (.convert (.constant (.float number)) "int"),
        .reference (.aliased (.constant (.float number)) "f")
          (.subquery "t1" ⟨2⟩)])
    "s"

/-- With the two zeros the queries agree in either order, and each agrees with itself;
with a NaN a query differs from itself. -/
theorem floatInside_partial_equivalence :
    (floatInside ⟨0⟩).equal (floatInside ⟨0x8000000000000000⟩) = true ∧
      (floatInside ⟨0x8000000000000000⟩).equal (floatInside ⟨0⟩) = true ∧
      (floatInside ⟨0⟩).equal (floatInside ⟨0⟩) = true ∧
      (floatInside ⟨0x7FF8000000000000⟩).equal
        (floatInside ⟨0x7FF8000000000000⟩) = false := by
  obtain ⟨symmetric, transitive, reflexive, -, -⟩ :=
    comparison_is_partial_equivalence
  have zeros : (floatInside ⟨0⟩).equal
      (floatInside ⟨0x8000000000000000⟩) = true := by decide
  have turned := symmetric _ _ zeros
  have inside : Expr.Part (.constant (.float ⟨0x7FF8000000000000⟩))
      (floatInside ⟨0x7FF8000000000000⟩) :=
    .inside (List.mem_singleton_self _)
      (.inside (List.mem_cons_of_mem _ List.mem_cons_self)
        (.inside (List.mem_singleton_self _)
          (.inside (List.mem_singleton_self _) .self)))
  refine ⟨zeros, turned, transitive _ _ _ zeros turned, ?_⟩
  rw [← Bool.not_eq_true, reflexive]
  intro numbers
  have number := numbers _ inside
  exact absurd number (by decide)

end ScopedQuery
