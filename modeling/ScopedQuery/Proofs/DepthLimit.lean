/-
Module: ScopedQuery.Proofs.DepthLimit
Purpose: Which entries of a flattened projection stack more references than the
  limit allows.
Trusted boundary: none
Main exports:
  Expr.ConvertsUpTo, Decision.Proper.outer_within_iff,
  Select.flatten_converted, exists_inlined_of_depth,
  outer_within_limit_iff_converts_up_to, converted_references_beyond_limit
-/
import ScopedQuery.Proofs.Flattening
import ScopedQuery.Proofs.Relifting

namespace ScopedQuery

/-!
The limit is checked where flattening makes a reference, and the references
counted are those at the top of what it made.  An inlined entry has none at its
top, so it would be within any limit.  But one kind of inlined entry is a
conversion of a reference, and the references stacked below the conversion are
neither made nor counted by flattening: they reach the enclosing query however
many they are.
-/

namespace Expr

/-- The entry is no conversion of more stacked references than a limit
allows. -/
def ConvertsUpTo (limit : Nat) : Expr → Prop
  | .convert operand _ => operand.referenceDepth ≤ limit
  | _ => True

/-- A conversion cannot be referenced. -/
theorem convertsUpTo_of_isReferenceable (limit : Nat) {entry : Expr}
    (named : entry.isReferenceable = true) : entry.ConvertsUpTo limit := by
  cases entry with
  | column _ | aliased _ _ | reference _ _ => trivial
  | _ => cases named

/-- A conversion of a reference is simple. -/
theorem convertsUpTo_of_not_isSimple (limit : Nat) {entry : Expr}
    (complex : entry.isSimple = false) : entry.ConvertsUpTo limit := by
  cases entry with
  | convert operand targetType =>
      cases operand with
      | reference inner scope => cases complex
      | _ => exact Nat.zero_le limit
  | _ => trivial

/-- For an entry that is inlined, the references below a conversion are all that
can count. -/
theorem withoutConvert_within_iff {limit : Nat} {entry : Expr}
    (unnamed : entry.isReferenceable = false) :
    entry.withoutConvert.referenceDepth ≤ limit ↔
      entry.ConvertsUpTo limit := by
  cases entry with
  | convert operand targetType => exact Iff.rfl
  | column _ | aliased _ _ | reference _ _ => cases unnamed
  | _ => exact iff_of_true (Nat.zero_le limit) trivial

end Expr

namespace Decision

variable {decision : Decision} {limit : Nat}

/-- At its top, what the enclosing query gets stacks as many references as were
counted. -/
theorem Proper.referenceDepth_outer (proper : decision.Proper)
    (scope : Table) :
    (decision.outer scope).referenceDepth = decision.depth := by
  cases decision with
  | lift entry => rfl
  | inline entry =>
      exact Expr.referenceDepth_eq_zero_of_not_referenceable proper.1
  | name entry aliasName => rfl

/-- Below a conversion there can be more, and there are exactly when the entry was
a conversion of more references than the limit allows. -/
theorem Proper.outer_within_iff (proper : decision.Proper) (scope : Table)
    (within : decision.depth ≤ limit) :
    (decision.outer scope).withoutConvert.referenceDepth ≤ limit ↔
      decision.entry.ConvertsUpTo limit := by
  cases decision with
  | lift entry =>
      have named : entry.isReferenceable = true := proper
      exact iff_of_true within
        (Expr.convertsUpTo_of_isReferenceable limit named)
  | inline entry => exact Expr.withoutConvert_within_iff proper.1
  | name entry aliasName =>
      exact iff_of_true within
        (Expr.convertsUpTo_of_not_isSimple limit proper.2)

/-- What breaks the limit is the entry itself. -/
theorem outer_eq_entry_of_exceeds {scope : Table}
    (within : decision.depth ≤ limit)
    (exceeds : limit < (decision.outer scope).withoutConvert.referenceDepth) :
    decision.outer scope = decision.entry := by
  cases decision with
  | lift entry | name entry aliasName =>
      exact absurd within (Nat.not_le_of_lt exceeds)
  | inline entry => rfl

end Decision

/-! ## Conversions of references -/

/-- A conversion of what can be referenced is inlined with any settings. -/
theorem Select.flatten_converted (config : Config) (scope : Table)
    {operand : Expr} (named : operand.isReferenceable = true)
    (targetType : String) :
    (Select.mk scope [.convert operand targetType]).flatten config =
      .ok ⟨⟨scope, [.convert operand targetType]⟩,
        [.convert operand targetType]⟩ := by
  cases operand with
  | column _ | aliased _ _ | reference _ _ => rfl
  | _ => cases named

/-- Whatever the limit, there is a nested query for which flattening succeeds and
leaves any wanted number of references stacked below a conversion. -/
theorem exists_inlined_of_depth (config : Config) (scope : Table)
    (depth : Nat) :
    ∃ (select : Select) (result : Flattened),
      select.flatten config = .ok result ∧
      ∃ outer ∈ result.outerProjection,
        outer.withoutConvert.referenceDepth = depth := by
  let column : Expr := .column ⟨⟨"Id", "id"⟩, scope⟩
  have named : column.isReferenceable = true := rfl
  obtain ⟨lifted, -, through⟩ :=
    Expr.exists_liftedThrough (List.replicate depth scope) named
  refine ⟨⟨scope, [.convert lifted "int"]⟩, _,
    Select.flatten_converted config scope through.referenceable "int",
    .convert lifted "int", List.mem_singleton_self _, ?_⟩
  calc lifted.referenceDepth
      = column.referenceDepth + (List.replicate depth scope).length :=
        through.depth
    _ = depth := by simp [column, Expr.referenceDepth]

/-- How far the limit binds.  At its top no entry of the list for the enclosing
query stacks more references than the limit allows.  Below one conversion an entry
does so exactly when it was made from a conversion of more references than the
limit allows, and then it is that conversion, unchanged.  So all of the list is
within the limit exactly when the projection holds no such conversion, and for
every limit there are nested queries whose lists go beyond it by as much as is
wanted. -/
theorem outer_within_limit_iff_converts_up_to {config : Config}
    {select : Select} {result : Flattened}
    (flattened : select.flatten config = .ok result) :
    let limit := config.maxLiftDepth.toNat
    (∀ (position : Nat) (entry outer : Expr),
      select.projection[position]? = some entry →
      result.outerProjection[position]? = some outer →
      outer.referenceDepth ≤ limit ∧
      (outer.withoutConvert.referenceDepth ≤ limit ↔
        entry.ConvertsUpTo limit) ∧
      (limit < outer.withoutConvert.referenceDepth → outer = entry)) ∧
    ((∀ outer ∈ result.outerProjection,
        outer.withoutConvert.referenceDepth ≤ limit) ↔
      ∀ entry ∈ select.projection, entry.ConvertsUpTo limit) ∧
    ∀ depth, ∃ (other : Select) (result : Flattened),
      other.flatten config = .ok result ∧
      ∃ outer ∈ result.outerProjection,
        outer.withoutConvert.referenceDepth = depth := by
  intro limit
  obtain ⟨-, within, rfl⟩ := Select.flatten_eq_ok_iff.mp flattened
  have proper : ∀ decision ∈ select.decisions config.aliasPrefix,
      decision.Proper := Select.decisions_proper
  have counted : ∀ decision ∈ select.decisions config.aliasPrefix,
      decision.depth ≤ limit := by
    intro decision member
    rw [(proper decision member).depth_eq]
    exact within _ (Select.entry_mem member)
  refine ⟨?_, ?_, exists_inlined_of_depth config select.scope⟩
  · intro position entry outer before after
    obtain ⟨decision, decided, suits, rfl⟩ :=
      Select.decision_at config.aliasPrefix before
    simp only [Select.carryOut, List.getElem?_map, decided, Option.map_some,
      Option.some.injEq] at after
    subst after
    have member := List.mem_of_getElem? decided
    refine ⟨?_, suits.outer_within_iff _ (counted decision member),
      Decision.outer_eq_entry_of_exceeds (counted decision member)⟩
    rw [suits.referenceDepth_outer]
    exact counted decision member
  · conv => rhs; rw [← select.decisions_map_entry config.aliasPrefix]
    simp only [Select.carryOut, List.forall_mem_map]
    exact forall₂_congr fun decision member =>
      (proper decision member).outer_within_iff _ (counted decision member)

/-- A column behind two references. -/
def twiceLifted : Expr :=
  .reference
    (.reference (.column ⟨⟨"Id", "id"⟩, .physical "Customers" "c" ⟨1⟩⟩)
      (.subquery "t0" ⟨2⟩))
    (.subquery "t1" ⟨3⟩)

/-- A nested query that projects a compound expression and a conversion of two
references. -/
def convertedReferences : Select :=
  .under "t2" ⟨4⟩ [.other "a + b", .convert twiceLifted "int"]

/-- With a limit of one, the compound expression gets one reference and the
conversion is inlined. -/
theorem flatten_convertedReferences :
    convertedReferences.flatten { maxLiftDepth := 1 } =
      .ok ⟨⟨convertedReferences.scope,
          [.aliased (.other "a + b") "c0", .convert twiceLifted "int"]⟩,
        [.reference (.aliased (.other "a + b") "c0") convertedReferences.scope,
          .convert twiceLifted "int"]⟩ := rfl

/-- Of the two entries, the first is within the limit and the second is not. -/
theorem convertedReferences_within_limit_iff :
    convertedReferences.flatten { maxLiftDepth := 1 } =
      .ok ⟨⟨convertedReferences.scope,
          [.aliased (.other "a + b") "c0", .convert twiceLifted "int"]⟩,
        [.reference (.aliased (.other "a + b") "c0") convertedReferences.scope,
          .convert twiceLifted "int"]⟩ ∧
    (Expr.reference (.aliased (.other "a + b") "c0")
      convertedReferences.scope).withoutConvert.referenceDepth ≤ 1 ∧
    ¬ (Expr.convert twiceLifted "int").withoutConvert.referenceDepth ≤ 1 := by
  have each :=
    (outer_within_limit_iff_converts_up_to flatten_convertedReferences).1
  obtain ⟨-, first, -⟩ := each 0 _ _ rfl rfl
  obtain ⟨-, second, -⟩ := each 1 _ _ rfl rfl
  refine ⟨flatten_convertedReferences, first.mpr trivial, ?_⟩
  intro within
  have atMost : 2 ≤ 1 := second.mp within
  omega

/-- A limit of one does not keep two stacked references from the enclosing
query. -/
theorem converted_references_beyond_limit :
    ∃ (config : Config) (select : Select) (result : Flattened),
      config.maxLiftDepth = 1 ∧ select.flatten config = .ok result ∧
      ∃ outer ∈ result.outerProjection,
        config.maxLiftDepth.toNat < outer.withoutConvert.referenceDepth := by
  refine ⟨{ maxLiftDepth := 1 }, convertedReferences, _, rfl,
    flatten_convertedReferences, .convert twiceLifted "int", ?_, ?_⟩
  · exact List.mem_of_getElem? (i := 1) rfl
  · decide

end ScopedQuery
