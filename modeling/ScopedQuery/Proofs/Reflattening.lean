/-
Module: ScopedQuery.Proofs.Reflattening
Purpose: Flattening a nested query that flattening has rewritten gives the same
  result again, whatever names the second run would generate.
Trusted boundary: none
Main exports:
  Decision.Proper.inner_settled, Decision.Proper.outerDepth_inner,
  Decision.Proper.seenThrough_inner, flatten_again
-/
import ScopedQuery.Proofs.Nesting

namespace ScopedQuery

/-!
The rewritten projection is settled: an entry that needed an alias has one, and
an alias can be lifted as it stands.  So a second run has no name to choose, and
neither its stem nor the names in use have a say.  What it lifts is what the
first run put behind a reference, at the same depth.
-/

namespace Decision

variable {decision : Decision}

/-- Inside the nested query no entry needs an alias any more. -/
theorem Proper.inner_settled (proper : decision.Proper) :
    decision.inner.needsAlias = false := by
  cases decision with
  | lift entry =>
      have named : entry.isReferenceable = true := proper
      simp [inner, Expr.needsAlias, named]
  | inline entry =>
      obtain ⟨-, simple⟩ := proper
      simp [inner, Expr.needsAlias, simple]
  | name entry aliasName => rfl

/-- To lift the rewritten entry stacks as many references as the decision did. -/
theorem Proper.outerDepth_inner (proper : decision.Proper) :
    decision.inner.outerDepth = decision.depth := by
  cases decision with
  | lift entry | inline entry => exact proper.depth_eq.symm
  | name entry aliasName => rfl

/-- The rewritten entry, seen through the scope, is what the enclosing query
got. -/
theorem Proper.seenThrough_inner (proper : decision.Proper) (scope : Table) :
    decision.inner.seenThrough [scope] = decision.outer scope := by
  cases decision with
  | lift entry =>
      have named : entry.isReferenceable = true := proper
      simp [inner, outer, Expr.seenThrough, named]
  | inline entry =>
      obtain ⟨unnamed, -⟩ := proper
      simp [inner, outer, Expr.seenThrough, unnamed]
  | name entry aliasName => rfl

end Decision

namespace Select

variable {config : Config} {select : Select} {result : Flattened}

/-- An entry of the rewritten nested query comes from a decision. -/
theorem decision_of_rewritten {inner : Expr}
    (flattened : select.flatten config = .ok result)
    (member : inner ∈ result.subquery.projection) :
    ∃ decision ∈ select.decisions config.aliasPrefix,
      decision.Proper ∧ decision.inner = inner := by
  rw [eq_carryOut_of_flatten flattened] at member
  obtain ⟨decision, inside, same⟩ := List.mem_map.mp member
  exact ⟨decision, inside, decisions_proper decision inside, same⟩

/-- The rewritten nested query has entries, as the given one does. -/
theorem rewritten_nonempty (flattened : select.flatten config = .ok result) :
    result.subquery.projection ≠ [] := by
  obtain ⟨nonempty, -, rfl⟩ := flatten_eq_ok_iff.mp flattened
  rw [← List.length_pos_iff] at nonempty ⊢
  simpa [carryOut] using nonempty

/-- No entry of the rewritten nested query needs an alias. -/
theorem rewritten_settled (flattened : select.flatten config = .ok result) :
    ∀ inner ∈ result.subquery.projection, inner.needsAlias = false := by
  intro inner member
  obtain ⟨decision, -, proper, rfl⟩ := decision_of_rewritten flattened member
  exact proper.inner_settled

/-- The entries of the rewritten nested query are within the limit. -/
theorem rewritten_within (flattened : select.flatten config = .ok result) :
    ∀ inner ∈ result.subquery.projection,
      inner.outerDepth ≤ config.maxLiftDepth.toNat := by
  intro inner member
  obtain ⟨decision, inside, proper, rfl⟩ :=
    decision_of_rewritten flattened member
  obtain ⟨-, within, -⟩ := flatten_eq_ok_iff.mp flattened
  rw [proper.outerDepth_inner, proper.depth_eq]
  exact within decision.entry (entry_mem inside)

/-- The list for the enclosing query is the rewritten projection, seen through the
scope. -/
theorem rewritten_seenThrough (flattened : select.flatten config = .ok result) :
    result.subquery.projection.map
        (Expr.seenThrough [result.subquery.scope]) =
      result.outerProjection := by
  rw [eq_carryOut_of_flatten flattened]
  simp only [carryOut, List.map_map]
  apply List.map_congr_left
  intro decision inside
  exact (decisions_proper decision inside).seenThrough_inner select.scope

end Select

/-- Flattening the rewritten nested query again gives the same result: the second
run leaves it as it is and makes the same list for the enclosing query, with any
stem and with any limit that is no lower than the first. -/
theorem flatten_again {config again : Config} {select : Select}
    {result : Flattened} (flattened : select.flatten config = .ok result)
    (room : config.maxLiftDepth ≤ again.maxLiftDepth) :
    result.subquery.flatten again = .ok result := by
  have within : ∀ inner ∈ result.subquery.projection,
      inner.outerDepth ≤ again.maxLiftDepth.toNat := by
    intro inner member
    calc
      inner.outerDepth ≤ config.maxLiftDepth.toNat :=
        Select.rewritten_within flattened inner member
      _ ≤ again.maxLiftDepth.toNat := UInt32.le_iff_toNat_le.mp room
  have repeated : result.subquery.flatten again = _ :=
    Select.flatten_of_settled (Select.rewritten_nonempty flattened)
      (Select.rewritten_settled flattened) within
  rw [repeated, Select.rewritten_seenThrough flattened]

/-- A nested query in which an alias and a reference of depth two have the first
numbers, with a negative zero and with two entries that need an alias. -/
def settledByFirstRun : Select :=
  .under "t2" ⟨3⟩
    [.other "a + b",
      .aliased (.parameter "p") "c1",
      .constant (.float ⟨0x8000000000000000⟩),
      .convert (.nullable (.parameter "q")) "int",
      .reference (.reference (.aliased (.other "x * y") "c0")
        (.subquery "t0" ⟨1⟩)) (.subquery "t1" ⟨2⟩)]

/-- The first run generates `c2` and `c3`.  A second one, with another stem and a
higher limit, generates nothing and gives the same result. -/
theorem settledByFirstRun_again :
    ∃ result,
      settledByFirstRun.flatten { maxLiftDepth := 3 } = .ok result ∧
      result.subquery.projection[3]? =
        some (.aliased (.convert (.nullable (.parameter "q")) "int") "c3") ∧
      (3 : UInt32) ≤ 4 ∧
      result.subquery.flatten { aliasPrefix := "x", maxLiftDepth := 4 } =
        .ok result := by
  obtain ⟨result, flattened⟩ : ∃ result,
      settledByFirstRun.flatten { maxLiftDepth := 3 } = .ok result := ⟨_, rfl⟩
  have room : (3 : UInt32) ≤ 4 := by decide
  refine ⟨result, flattened, ?_, room, flatten_again flattened room⟩
  cases flattened
  rfl

end ScopedQuery
