/-
Module: ScopedQuery.Proofs.WellFormedness
Purpose: Lifting and flattening keep expressions well formed, and a well-formed
  reference takes its name from the node under its chain of references.
Trusted boundary: none
Main exports:
  Select.WellFormed, Flattened.WellFormed, Expr.chainEnd,
  Expr.NamedByChainEnd, Expr.lift?_wellFormed, Select.flatten_gives,
  Expr.WellFormed.namedByChainEnd
-/
import ScopedQuery.Proofs.Flattening
import ScopedQuery.Proofs.Parts
import ScopedQuery.Proofs.Reading

namespace ScopedQuery

/-!
A reference is made in two places besides reading: by lifting, which asks for a
node with a name, and by flattening around an alias that it has just made.  In
both the new reference is well formed because what it sees is.
-/

/-- The entries of the nested query are well formed. -/
def Select.WellFormed (select : Select) : Prop :=
  ∀ entry ∈ select.projection, entry.WellFormed

/-- The entries of both projections are well formed. -/
structure Flattened.WellFormed (result : Flattened) : Prop where
  subquery : result.subquery.WellFormed
  outerProjection : ∀ entry ∈ result.outerProjection, entry.WellFormed

/-- A nested query is well formed as an expression when its entries are. -/
theorem Select.toExpr_wellFormed_iff {select : Select} :
    select.toExpr.WellFormed ↔ select.WellFormed :=
  Expr.wellFormedItems_iff select.projection

/-- The nested query that a well-formed expression is has well-formed
entries. -/
theorem Expr.WellFormed.select? {expr : Expr} {select : Select}
    (wellFormed : expr.WellFormed) (isSelect : expr.select? = some select) :
    select.WellFormed := by
  cases expr with
  | select scope projection =>
      cases isSelect
      exact Select.toExpr_wellFormed_iff.mp wellFormed
  | _ => cases isSelect

/-! ## Lifting -/

namespace Expr

/-- What lifting makes of a well-formed expression is well formed. -/
theorem lift?_wellFormed {expr lifted : Expr} {scope : Table}
    (wellFormed : expr.WellFormed) (made : expr.lift? scope = some lifted) :
    lifted.WellFormed := by
  unfold lift? at made
  split at made
  · next named =>
      cases made
      exact ⟨named, wellFormed⟩
  · cases made

theorem liftTimes?_wellFormed {scope : Table} {times : Nat}
    {expr lifted : Expr} (wellFormed : expr.WellFormed)
    (made : expr.liftTimes? scope times = some lifted) :
    lifted.WellFormed := by
  induction times generalizing expr with
  | zero =>
      cases made
      exact wellFormed
  | succ times inductionHypothesis =>
      obtain ⟨once, first, rest⟩ := Option.bind_eq_some_iff.mp made
      exact inductionHypothesis (lift?_wellFormed wellFormed first) rest

end Expr

/-! ## Flattening -/

namespace Decision

/-- The entry stays well formed inside the nested query, with an alias or
without. -/
theorem inner_wellFormed {decision : Decision}
    (wellFormed : decision.entry.WellFormed) : decision.inner.WellFormed := by
  cases decision with
  | lift entry | inline entry | name entry aliasName => exact wellFormed

/-- What the enclosing query sees of a well-formed entry is well formed. -/
theorem Proper.outer_wellFormed {decision : Decision} {scope : Table}
    (proper : decision.Proper) (wellFormed : decision.entry.WellFormed) :
    (decision.outer scope).WellFormed := by
  cases decision with
  | lift entry =>
      have named : entry.isReferenceable = true := proper
      exact ⟨named, wellFormed⟩
  | inline entry => exact wellFormed
  | name entry aliasName => exact ⟨rfl, wellFormed⟩

end Decision

/-- Flattening a nested query of well-formed entries gives well-formed entries
in both projections. -/
theorem Select.flatten_gives {config : Config} {select : Select}
    (wellFormed : select.WellFormed) :
    Gives (select.flatten config) Flattened.WellFormed := by
  constructor
  intro result flattened
  have entries : ∀ decision ∈ select.decisions config.aliasPrefix,
      decision.entry.WellFormed := by
    intro decision member
    exact wellFormed decision.entry (entry_mem member)
  rw [eq_carryOut_of_flatten flattened]
  constructor
  · intro entry inside
    obtain ⟨decision, member, rfl⟩ := List.mem_map.mp inside
    exact Decision.inner_wellFormed (entries decision member)
  · intro entry inside
    obtain ⟨decision, member, rfl⟩ := List.mem_map.mp inside
    exact (decisions_proper decision member).outer_wellFormed
      (entries decision member)

/-! ## Names -/

namespace Expr

/-- The first node that is not a reference under a chain of references. -/
def chainEnd : Expr → Expr
  | .reference inner _ => inner.chainEnd
  | expr => expr

/-- The descent to the name of a reference, with a given text for a node that
has no name. -/
def addressedNameOr (fallback : String) : Expr → String
  | .column exposed => exposed.name
  | .aliased _ aliasName => aliasName
  | .reference inner _ => inner.addressedNameOr fallback
  | _ => fallback

theorem addressedNameOr_empty (expr : Expr) :
    expr.addressedNameOr "" = expr.addressedName := by
  induction expr using induction_on_children with
  | step expr inductionHypothesis =>
      cases expr with
      | reference inner scope =>
          exact inductionHypothesis inner (List.mem_singleton_self inner)
      | _ => rfl

/-- The expression is addressed by the alias or the column name of the node
under its chain of references, and no text stands in for a name. -/
structure NamedByChainEnd (expr : Expr) : Prop where
  noFallback : ∀ fallback, expr.addressedNameOr fallback = expr.addressedName
  chainEnd :
    (∃ column, expr.chainEnd = .column column ∧
      expr.addressedName = column.name) ∨
    ∃ operand aliasName, expr.chainEnd = .aliased operand aliasName ∧
      expr.addressedName = aliasName

/-- A well-formed node that can be referenced has a name of its own, or passes
on that of the node under it. -/
theorem WellFormed.namedByChainEnd {expr : Expr} (wellFormed : expr.WellFormed)
    (named : expr.isReferenceable = true) : expr.NamedByChainEnd := by
  induction expr using induction_on_children with
  | step expr inductionHypothesis =>
      cases expr with
      | column exposed => exact ⟨fun _ => rfl, .inl ⟨exposed, rfl, rfl⟩⟩
      | aliased inner aliasName =>
          exact ⟨fun _ => rfl, .inr ⟨inner, aliasName, rfl, rfl⟩⟩
      | reference inner scope =>
          obtain ⟨namedInner, wellFormedInner⟩ := wellFormed
          obtain ⟨noFallback, chainEnd⟩ :=
            inductionHypothesis inner (List.mem_singleton_self inner)
              wellFormedInner namedInner
          exact ⟨noFallback, chainEnd⟩
      | _ => cases named

/-- Every reference inside a well-formed expression is addressed by the node
under its chain. -/
theorem WellFormed.references_named {expr inner : Expr} {scope : Table}
    (wellFormed : expr.WellFormed) (part : Part (.reference inner scope) expr) :
    inner.isReferenceable = true ∧
      (Expr.reference inner scope).NamedByChainEnd := by
  constructor
  · exact (wellFormed_iff_parts expr).mp wellFormed inner scope part
  · exact (wellFormed.of_part part).namedByChainEnd rfl

end Expr

end ScopedQuery
