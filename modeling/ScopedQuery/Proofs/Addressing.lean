/-
Module: ScopedQuery.Proofs.Addressing
Purpose: Which entries of a flattened projection the enclosing query can
  resolve through the alias of the nested one.
Trusted boundary: none
Main exports:
  Expr.AddressableThrough, Expr.ConvertsWithin,
  Decision.Proper.outer_addressable_iff, outer_addressable_iff_converts_within,
  converted_column_not_addressable
-/
import ScopedQuery.Proofs.Flattening
import ScopedQuery.Proofs.Parts

namespace ScopedQuery

/-!
Outside a nested query only its own alias is known.  A column is addressed by
the alias of a table inside the nested query, and a reference by the alias of
the scope that it crosses, so neither can be resolved outside unless a reference
through the nested query covers it.

Lifting and naming put such a reference on top.  Inlining does not, and this is
harmless for constants and parameters.  But an entry counts as simple when the
operand of a conversion does, so a conversion of a column, of a reference or of
an alias is repeated with everything that it exposes.
-/

namespace Expr

/-- The node can be resolved outside the given scope. -/
def ResolvesThrough (scope : Table) : Expr → Prop
  | .column _ => False
  | .reference _ seen => seen = scope
  | _ => True

/-- Everything that the expression exposes can be resolved outside the given
scope: no column at all, and no reference but through that scope. -/
def AddressableThrough (scope : Table) (expr : Expr) : Prop :=
  ∀ node, Exposed node expr → node.ResolvesThrough scope

/-- A reference hides what it sees. -/
theorem exposed_reference_iff {node inner : Expr} {seen : Table} :
    Exposed node (.reference inner seen) ↔ node = .reference inner seen := by
  constructor
  · intro exposed
    cases exposed with
    | self => rfl
    | inside uncovered member exposed =>
        exact absurd ⟨inner, seen, rfl⟩ uncovered
  · rintro rfl
    exact .self

/-- A node that is not a reference exposes itself and what its children
expose. -/
theorem exposed_iff_of_not_isReference {node expr : Expr}
    (uncovered : ¬ expr.IsReference) :
    Exposed node expr ↔
      node = expr ∨ ∃ child ∈ expr.children, Exposed node child := by
  constructor
  · intro exposed
    cases exposed with
    | self => exact Or.inl rfl
    | inside _ member exposed => exact Or.inr ⟨_, member, exposed⟩
  · rintro (rfl | ⟨child, member, exposed⟩)
    · exact .self
    · exact .inside uncovered member exposed

/-- Outside a scope, a reference is addressable if it goes through that scope,
whatever it sees. -/
@[simp] theorem addressableThrough_reference (scope seen : Table)
    (inner : Expr) :
    (Expr.reference inner seen).AddressableThrough scope ↔ seen = scope := by
  simp [AddressableThrough, exposed_reference_iff, ResolvesThrough]

/-- Any other node is addressable if it is no column and its children are
addressable. -/
theorem addressableThrough_iff_of_not_isReference {scope : Table} {expr : Expr}
    (uncovered : ¬ expr.IsReference) :
    expr.AddressableThrough scope ↔
      expr.ResolvesThrough scope ∧
      ∀ child ∈ expr.children, child.AddressableThrough scope := by
  simp only [AddressableThrough, exposed_iff_of_not_isReference uncovered]
  constructor
  · intro all
    refine ⟨all expr (Or.inl rfl), ?_⟩
    intro child member node exposed
    exact all node (Or.inr ⟨child, member, exposed⟩)
  · rintro ⟨root, below⟩ node (rfl | ⟨child, member, exposed⟩)
    · exact root
    · exact below child member node exposed

@[simp] theorem not_addressableThrough_column (scope : Table)
    (column : Column) : ¬ (Expr.column column).AddressableThrough scope :=
  fun all => all _ .self

@[simp] theorem addressableThrough_constant (scope : Table)
    (literal : Literal) : (Expr.constant literal).AddressableThrough scope := by
  rw [addressableThrough_iff_of_not_isReference (by rintro ⟨_, _, ⟨⟩⟩)]
  simp [ResolvesThrough, children]

@[simp] theorem addressableThrough_parameter (scope : Table) (name : String) :
    (Expr.parameter name).AddressableThrough scope := by
  rw [addressableThrough_iff_of_not_isReference (by rintro ⟨_, _, ⟨⟩⟩)]
  simp [ResolvesThrough, children]

@[simp] theorem addressableThrough_aliased (scope : Table) (inner : Expr)
    (aliasName : String) :
    (Expr.aliased inner aliasName).AddressableThrough scope ↔
      inner.AddressableThrough scope := by
  rw [addressableThrough_iff_of_not_isReference (by rintro ⟨_, _, ⟨⟩⟩)]
  simp [ResolvesThrough, children]

@[simp] theorem addressableThrough_convert (scope : Table) (operand : Expr)
    (targetType : String) :
    (Expr.convert operand targetType).AddressableThrough scope ↔
      operand.AddressableThrough scope := by
  rw [addressableThrough_iff_of_not_isReference (by rintro ⟨_, _, ⟨⟩⟩)]
  simp [ResolvesThrough, children]

/-- The entry is no conversion that, repeated outside the scope, would expose
something inside it: a conversion of a column always does, one of a reference
does unless the reference goes through the scope, and one of an alias does when
what it names does. -/
def ConvertsWithin (scope : Table) : Expr → Prop
  | .convert (.column _) _ => False
  | .convert (.reference _ seen) _ => seen = scope
  | .convert (.aliased inner _) _ => inner.AddressableThrough scope
  | _ => True

/-- An entry that is inlined is addressable outside exactly when it is no such
conversion. -/
theorem addressableThrough_iff_convertsWithin {scope : Table} {entry : Expr}
    (unnamed : entry.isReferenceable = false)
    (simple : entry.isSimple = true) :
    entry.AddressableThrough scope ↔ entry.ConvertsWithin scope := by
  cases entry with
  | constant literal => simp [ConvertsWithin]
  | parameter name => simp [ConvertsWithin]
  | convert operand targetType =>
      rw [addressableThrough_convert]
      cases operand with
      | column _ | reference _ _ | aliased _ _ | constant _ | parameter _ =>
          simp [ConvertsWithin]
      | _ => cases simple
  | column _ | aliased _ _ | reference _ _ => cases unnamed
  | _ => cases simple

/-- Only a conversion can break the rule, and a conversion is never
referenceable. -/
theorem convertsWithin_of_isReferenceable (scope : Table) {entry : Expr}
    (named : entry.isReferenceable = true) : entry.ConvertsWithin scope := by
  cases entry with
  | column _ | aliased _ _ | reference _ _ => trivial
  | _ => cases named

/-- A conversion that breaks the rule is simple. -/
theorem convertsWithin_of_not_isSimple (scope : Table) {entry : Expr}
    (complex : entry.isSimple = false) : entry.ConvertsWithin scope := by
  cases entry with
  | convert operand targetType =>
      cases operand with
      | column _ | reference _ _ | aliased _ _ => cases complex
      | _ => trivial
  | _ => trivial

end Expr

/-- What the enclosing query gets of an entry is addressable there exactly when
the entry is no conversion that exposes something inside the nested query. -/
theorem Decision.Proper.outer_addressable_iff {decision : Decision}
    (proper : decision.Proper) (scope : Table) :
    (decision.outer scope).AddressableThrough scope ↔
      decision.entry.ConvertsWithin scope := by
  cases decision with
  | lift entry =>
      have named : entry.isReferenceable = true := proper
      have within := Expr.convertsWithin_of_isReferenceable scope named
      simpa [outer, Decision.entry] using within
  | inline entry =>
      exact Expr.addressableThrough_iff_convertsWithin proper.1 proper.2
  | name entry aliasName =>
      have within := Expr.convertsWithin_of_not_isSimple scope proper.2
      simpa [outer, Decision.entry] using within

/-- After flattening, the enclosing query can resolve an entry of its list
exactly when the entry it was made from is no conversion that exposes something
inside the nested query.  So all of its list is addressable exactly when the
projection holds no such conversion. -/
theorem outer_addressable_iff_converts_within {config : Config}
    {select : Select} {result : Flattened}
    (flattened : select.flatten config = .ok result) :
    (∀ (position : Nat) (entry outer : Expr),
      select.projection[position]? = some entry →
      result.outerProjection[position]? = some outer →
      (outer.AddressableThrough select.scope ↔
        entry.ConvertsWithin select.scope)) ∧
    ((∀ outer ∈ result.outerProjection,
        outer.AddressableThrough select.scope) ↔
      ∀ entry ∈ select.projection, entry.ConvertsWithin select.scope) := by
  rw [Select.eq_carryOut_of_flatten flattened,
    ← select.decisions_map_entry config.aliasPrefix]
  have each : ∀ decision ∈ select.decisions config.aliasPrefix,
      (decision.outer select.scope).AddressableThrough select.scope ↔
        decision.entry.ConvertsWithin select.scope :=
    fun decision member =>
      (Select.decisions_proper decision member).outer_addressable_iff _
  constructor
  · intro position entry outer before after
    simp only [Select.carryOut, List.getElem?_map, Option.map_eq_some_iff]
      at before after
    obtain ⟨decision, decided, rfl⟩ := before
    obtain ⟨same, decidedSame, rfl⟩ := after
    obtain rfl := Option.some.inj (decided.symm.trans decidedSame)
    exact each decision (List.mem_of_getElem? decided)
  · simp only [Select.carryOut, List.forall_mem_map]
    exact forall₂_congr each

/-- A column of a physical table. -/
def customerNumber : Expr :=
  .column ⟨⟨"Id", "id"⟩, .physical "Customers" "c" ⟨1⟩⟩

/-- A nested query that projects a column and its conversion. -/
def convertedColumn : Select :=
  .under "t0" ⟨2⟩ [customerNumber, .convert customerNumber "int"]

/-- The enclosing query gets a reference to the column, and the conversion as it
stands. -/
theorem flatten_convertedColumn :
    convertedColumn.flatten {} =
      .ok ⟨convertedColumn,
        [.reference customerNumber convertedColumn.scope,
          .convert customerNumber "int"]⟩ := rfl

/-- Of the two entries, it can resolve the first and not the second. -/
theorem convertedColumn_outer_addressable :
    convertedColumn.flatten {} =
      .ok ⟨convertedColumn,
        [.reference customerNumber convertedColumn.scope,
          .convert customerNumber "int"]⟩ ∧
    (Expr.reference customerNumber convertedColumn.scope).AddressableThrough
      convertedColumn.scope ∧
    ¬ (Expr.convert customerNumber "int").AddressableThrough
      convertedColumn.scope := by
  have each :=
    (outer_addressable_iff_converts_within flatten_convertedColumn).1
  exact ⟨flatten_convertedColumn, (each 0 _ _ rfl rfl).mpr trivial,
    (each 1 _ _ rfl rfl).mp⟩

/-- Flattening can succeed and leave a column of the nested query exposed to the
enclosing one. -/
theorem converted_column_not_addressable :
    ∃ (config : Config) (select : Select) (result : Flattened),
      select.flatten config = .ok result ∧
      ∃ outer ∈ result.outerProjection,
        ¬ outer.AddressableThrough select.scope := by
  refine ⟨{}, convertedColumn, _, flatten_convertedColumn, ?_⟩
  refine ⟨.convert customerNumber "int", by simp, ?_⟩
  simp [customerNumber]

end ScopedQuery
