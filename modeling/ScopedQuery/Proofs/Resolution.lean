/-
Module: ScopedQuery.Proofs.Resolution
Purpose: The column, property and source that an entry denotes before flattening
  are those that it denotes afterwards, inside the nested query and outside it.
Trusted boundary: none
Main exports:
  Expr.ResolvesInside, Expr.ResolvesOutside, Decision.entry_resolvesInside,
  Decision.Proper.entry_resolvesOutside, flatten_keeps_resolution
-/
import Mathlib.Data.List.Forall2
import ScopedQuery.Expr.Resolution
import ScopedQuery.Proofs.Flattening
import ScopedQuery.Proofs.Parts

namespace ScopedQuery

/-!
All three descents cross an alias, so the alias that an entry gets inside the
nested query hides nothing.  A reference around the entry hides its column,
keeps its property and answers for its source with the scope.  What is inlined
denotes nothing at all: it is a constant, a parameter or a conversion, and no
descent crosses a conversion.
-/

namespace Expr

/-- The form of an entry inside the nested query denotes what the entry
denotes. -/
structure ResolvesInside (entry inner : Expr) : Prop where
  column : inner.column? = entry.column?
  property : inner.property? = entry.property?
  source : inner.source? = entry.source?

/-- The form of an entry outside the nested query denotes no column and the
property of the entry.  A reference belongs to the scope of the nested query,
and an inlined entry, which is the entry itself, to none. -/
structure ResolvesOutside (scope : Table) (entry outer : Expr) : Prop where
  column : outer.column? = none
  property : outer.property? = entry.property?
  referenceSource : outer.IsReference → outer.source? = some scope.source
  inlinedSource : ¬ outer.IsReference → outer = entry ∧ outer.source? = none

/-- An entry that stands as it is denotes what it denotes. -/
theorem ResolvesInside.refl (entry : Expr) : entry.ResolvesInside entry :=
  ⟨rfl, rfl, rfl⟩

/-- No descent is stopped by an alias. -/
theorem ResolvesInside.aliased (entry : Expr) (aliasName : String) :
    entry.ResolvesInside (.aliased entry aliasName) :=
  ⟨rfl, rfl, rfl⟩

/-- A reference through the scope to a form of the entry. -/
theorem ResolvesInside.reference {entry inner : Expr} (scope : Table)
    (inside : entry.ResolvesInside inner) :
    entry.ResolvesOutside scope (.reference inner scope) where
  column := rfl
  property := inside.property
  referenceSource := fun _ => rfl
  inlinedSource := fun inlined => absurd ⟨inner, scope, rfl⟩ inlined

/-- A simple entry that cannot be referenced denotes nothing. -/
theorem resolvesOutside_inlined {entry : Expr} (scope : Table)
    (unnamed : entry.isReferenceable = false) (simple : entry.isSimple = true) :
    entry.ResolvesOutside scope entry := by
  cases entry with
  | constant _ | parameter _ | convert _ _ =>
      refine ⟨rfl, rfl, ?_, ?_⟩
      · rintro ⟨inner, seen, same⟩
        cases same
      · intro _
        exact ⟨rfl, rfl⟩
  | column _ | aliased _ _ | reference _ _ => cases unnamed
  | nullable _ | table _ | select _ _ | other _ => cases simple

end Expr

namespace Decision

/-- Inside the nested query, a decision leaves the denotation of its entry as it
is. -/
theorem entry_resolvesInside (decision : Decision) :
    decision.entry.ResolvesInside decision.inner := by
  cases decision with
  | lift entry | inline entry => exact .refl entry
  | name entry aliasName => exact .aliased entry aliasName

/-- Outside it, what the enclosing query gets is a reference to the form inside,
or an entry that denotes nothing. -/
theorem Proper.entry_resolvesOutside {decision : Decision}
    (proper : decision.Proper) (scope : Table) :
    decision.entry.ResolvesOutside scope (decision.outer scope) := by
  cases decision with
  | lift entry => exact (Expr.ResolvesInside.refl entry).reference scope
  | inline entry =>
      obtain ⟨unnamed, simple⟩ := proper
      exact Expr.resolvesOutside_inlined scope unnamed simple
  | name entry aliasName =>
      exact (Expr.ResolvesInside.aliased entry aliasName).reference scope

end Decision

/-- Flattening keeps what entries resolve to.  Position by position, an entry of
the rewritten projection has the column, the property and the source of the
entry that it was made from.  An entry of the list for the enclosing query has
the same property and no column; its source is that of the nested query if it is
a reference, and it has none if it was inlined. -/
theorem flatten_keeps_resolution {config : Config} {select : Select}
    {result : Flattened} (flattened : select.flatten config = .ok result) :
    List.Forall₂ Expr.ResolvesInside select.projection
        result.subquery.projection ∧
      List.Forall₂ (Expr.ResolvesOutside select.scope) select.projection
        result.outerProjection := by
  rw [Select.eq_carryOut_of_flatten flattened, Select.carryOut,
    ← select.decisions_map_entry config.aliasPrefix]
  constructor
  · rw [List.forall₂_map_left_iff, List.forall₂_map_right_iff, List.forall₂_same]
    intro decision _
    exact decision.entry_resolvesInside
  · rw [List.forall₂_map_left_iff, List.forall₂_map_right_iff, List.forall₂_same]
    intro decision member
    exact (Select.decisions_proper decision member).entry_resolvesOutside
      select.scope

/-- A nested query that projects a column under a nullable marker, a conversion
of it, and a reference to it. -/
def wrappedColumn : Select :=
  let column : Expr :=
    .column ⟨⟨"Name", "name"⟩, .physical "Customers" "c" ⟨1⟩⟩
  .under "t1" ⟨3⟩
    [.nullable column, .convert column "text",
      .reference column (.subquery "t0" ⟨2⟩)]

/-- The nullable column keeps its column inside and loses it outside, the
conversion has nothing to lose, and the reference keeps its property. -/
theorem wrappedColumn_keeps_resolution :
    ∃ result, wrappedColumn.flatten {} = .ok result ∧
      result.subquery.projection.map Expr.column? =
        [some ⟨⟨"Name", "name"⟩, .physical "Customers" "c" ⟨1⟩⟩, none, none] ∧
      result.outerProjection.map Expr.source? =
        [some ⟨3⟩, none, some ⟨3⟩] ∧
      List.Forall₂ Expr.ResolvesInside wrappedColumn.projection
        result.subquery.projection ∧
      List.Forall₂ (Expr.ResolvesOutside wrappedColumn.scope)
        wrappedColumn.projection result.outerProjection := by
  obtain ⟨result, flattened⟩ : ∃ result, wrappedColumn.flatten {} = .ok result :=
    ⟨_, rfl⟩
  obtain ⟨inside, outside⟩ := flatten_keeps_resolution flattened
  refine ⟨result, flattened, ?_, ?_, inside, outside⟩
  · cases flattened
    rfl
  · cases flattened
    rfl

end ScopedQuery
