/-
Module: ScopedQuery.Proofs.Nesting
Purpose: Flattening level after level: when all levels succeed, what they leave
  of the entries, and why a level above the first fails.
Trusted boundary: none
Main exports:
  Ascent, flattenThrough, Workspace.Levels.run_eq_flattenThrough,
  Expr.Carried, Expr.seenThrough, Select.flatten_of_settled,
  Select.flatten_carried,
  flattenThrough_projection_unchanged, flattenThrough_levels
-/
import ScopedQuery.Proofs.Flattening
import ScopedQuery.Workspace.Basic

namespace ScopedQuery

/-!
The list that flattening makes for the enclosing query is the projection of the
next level.  From the second level on no entry needs an alias: an entry is a
reference, which gets one more reference on top, or it was inlined, and is
inlined again.  The depth of the references grows by one from level to level,
so a level above the first can fail only by the limit, at a depth one beyond
it.
-/

/-- What becomes of flattening level after level: the results of the levels that
were carried out, the innermost first, and the fault of the level after them if
it fails. -/
structure Ascent where
  levels : List Flattened
  fault : Option FlattenError

/-- Flatten a projection in the first scope, what the enclosing query sees of it
in the second, and so on. -/
def flattenThrough (config : Config) : List Table → List Expr → Ascent
  | [], _ => ⟨[], none⟩
  | scope :: scopes, projection =>
      match (Select.mk scope projection).flatten config with
      | .error fault => ⟨[], some fault⟩
      | .ok result =>
          let above := flattenThrough config scopes result.outerProjection
          ⟨result :: above.levels, above.fault⟩

variable {config : Config} {scope : Table} {scopes : List Table}
  {projection : List Expr} {result : Flattened} {fault : FlattenError}

theorem flattenThrough_of_ok
    (flattened : (Select.mk scope projection).flatten config = .ok result) :
    flattenThrough config (scope :: scopes) projection =
      ⟨result :: (flattenThrough config scopes result.outerProjection).levels,
        (flattenThrough config scopes result.outerProjection).fault⟩ := by
  rw [flattenThrough, flattened]

theorem flattenThrough_of_error
    (failed : (Select.mk scope projection).flatten config = .error fault) :
    flattenThrough config (scope :: scopes) projection = ⟨[], some fault⟩ := by
  rw [flattenThrough, failed]

/-- The list that the levels leave: that of the last one, or the given list
where there are none. -/
def Ascent.list (run : Ascent) (projection : List Expr) : List Expr :=
  (run.levels.getLast?.map Flattened.outerProjection).getD projection

/-- The nesting of a workspace is flattening through its numbered scopes, as
long as no further expressions are added between two levels. -/
theorem Workspace.Levels.run_eq_flattenThrough {levels : Levels}
    (plain : levels.further = []) (config : Config) (level times : Nat)
    (projection : List Expr) :
    levels.run config level times projection =
      let run := flattenThrough config
        ((List.range' level times).map fun number =>
          .subquery (levels.aliasName ++ toString number) levels.source)
        projection
      match run.fault with
      | none => .ok (run.list projection)
      | some fault =>
          .error (.unflattenableAt (level + run.levels.length) fault) := by
  induction times generalizing level projection with
  | zero => rfl
  | succ times inductionHypothesis =>
      have query : levels.select level projection =
          ⟨.subquery (levels.aliasName ++ toString level) levels.source,
            projection⟩ := by
        simp [Levels.select, Select.under, plain]
      rw [Levels.run, query, List.range'_succ, List.map_cons]
      cases flattened : (Select.mk (.subquery
          (levels.aliasName ++ toString level) levels.source)
          projection).flatten config with
      | error fault =>
          simp only [flattenThrough_of_error flattened, List.length_nil,
            Nat.add_zero]
      | ok result =>
          simp only [flattenThrough_of_ok flattened, inductionHypothesis]
          split
          · simp [Ascent.list, List.getLast?_cons]
          · simp [Nat.add_assoc, Nat.add_comm]

/-- All levels are carried out unless one of them fails. -/
theorem flattenThrough_fault_eq_none_iff_length (config : Config)
    (scopes : List Table) (projection : List Expr) :
    (flattenThrough config scopes projection).fault = none ↔
      (flattenThrough config scopes projection).levels.length =
        scopes.length := by
  induction scopes generalizing projection with
  | nil => simp [flattenThrough]
  | cons scope scopes inductionHypothesis =>
      cases flattened : (Select.mk scope projection).flatten config with
      | error fault => simp [flattenThrough_of_error flattened]
      | ok result =>
          simpa [flattenThrough_of_ok flattened] using
            inductionHypothesis result.outerProjection

/-! ## Entries from the second level on -/

namespace Expr

/-- The entry of a list that flattening made: it needs no alias, and its
references are within the limit. -/
def Carried (limit : Nat) (entry : Expr) : Prop :=
  entry.needsAlias = false ∧ entry.referenceDepth ≤ limit

/-- An entry as it is seen through further scopes, the innermost first.  An
inlined entry is the same in all of them. -/
def seenThrough (scopes : List Table) (entry : Expr) : Expr :=
  if entry.isReferenceable then scopes.foldl .reference entry else entry

@[simp] theorem seenThrough_nil (entry : Expr) :
    entry.seenThrough [] = entry := by
  simp [seenThrough]

theorem seenThrough_cons (scope : Table) (scopes : List Table) (entry : Expr) :
    entry.seenThrough (scope :: scopes) =
      (entry.seenThrough [scope]).seenThrough scopes := by
  cases named : entry.isReferenceable with
  | false => simp [seenThrough, named]
  | true => simp [seenThrough, named]

theorem isReferenceable_seenThrough (scope : Table) (entry : Expr) :
    (entry.seenThrough [scope]).isReferenceable = entry.isReferenceable := by
  cases named : entry.isReferenceable with
  | false => simp [seenThrough, named]
  | true => simp [seenThrough, named]

/-- One scope further out, a referenceable entry is one reference deeper. -/
theorem referenceDepth_seenThrough {entry : Expr} (scope : Table)
    (named : entry.isReferenceable = true) :
    (entry.seenThrough [scope]).referenceDepth = entry.referenceDepth + 1 := by
  simp [seenThrough, named, referenceDepth]

/-- An entry that needs no alias stays within a limit one scope further out
unless it is referenceable and already at the limit. -/
theorem outerDepth_le_iff_of_not_needsAlias {limit : Nat} {entry : Expr}
    (settled : entry.needsAlias = false) :
    entry.outerDepth ≤ limit ↔
      (entry.isReferenceable = true → entry.referenceDepth + 1 ≤ limit) := by
  cases named : entry.isReferenceable with
  | true => simp [outerDepth, named]
  | false =>
      have simple : entry.isSimple = true := by
        simpa [needsAlias, named] using settled
      simp [outerDepth, named, simple]

/-- A carried entry that goes beyond the limit does so by one reference. -/
theorem Carried.outerDepth_eq {limit : Nat} {entry : Expr}
    (carried : entry.Carried limit) (exceeds : limit < entry.outerDepth) :
    entry.outerDepth = limit + 1 := by
  obtain ⟨settled, within⟩ := carried
  cases named : entry.isReferenceable with
  | true =>
      simp only [outerDepth, named, if_true] at exceeds ⊢
      omega
  | false =>
      have simple : entry.isSimple = true := by
        simpa [needsAlias, named] using settled
      simp [outerDepth, named, simple] at exceeds

/-- Seeing a carried entry through one more scope carries it again, if it stays
within the limit. -/
theorem Carried.seenThrough {limit : Nat} {entry : Expr} (scope : Table)
    (carried : entry.Carried limit) (within : entry.outerDepth ≤ limit) :
    (entry.seenThrough [scope]).Carried limit := by
  cases named : entry.isReferenceable with
  | true =>
      have deeper : entry.referenceDepth + 1 ≤ limit := by
        simpa [outerDepth, named] using within
      refine ⟨?_, ?_⟩
      · simp [needsAlias, isReferenceable_seenThrough, named]
      · rwa [referenceDepth_seenThrough scope named]
  | false => simpa [Expr.seenThrough, named] using carried

end Expr

/-! ## Decisions seen from further out -/

namespace Decision

/-- The list for the enclosing query holds carried entries. -/
theorem Proper.outer_carried {limit : Nat} {decision : Decision}
    (proper : decision.Proper) (scope : Table)
    (within : decision.depth ≤ limit) :
    (decision.outer scope).Carried limit := by
  cases decision with
  | lift entry => exact ⟨rfl, within⟩
  | inline entry =>
      obtain ⟨unnamed, simple⟩ := proper
      refine ⟨?_, ?_⟩
      · simp [outer, Expr.needsAlias, simple]
      · simp [outer, Expr.referenceDepth_eq_zero_of_not_referenceable unnamed]
  | name entry aliasName => exact ⟨rfl, within⟩

/-- An inlined entry stays what it is; every other one is stacked under a
reference for each scope. -/
theorem Proper.seenThrough_outer {decision : Decision}
    (proper : decision.Proper) (scope : Table) (scopes : List Table) :
    (decision.outer scope).seenThrough scopes =
      if decision.entry.isReferenceable = false ∧
          decision.entry.isSimple = true then decision.entry
      else (scope :: scopes).foldl .reference decision.inner := by
  cases decision with
  | lift entry =>
      change entry.isReferenceable = true at proper
      simp [outer, inner, Decision.entry, Expr.seenThrough, proper]
  | inline entry =>
      obtain ⟨unnamed, simple⟩ := proper
      simp [outer, Decision.entry, Expr.seenThrough, unnamed, simple]
  | name entry aliasName =>
      obtain ⟨unnamed, complex⟩ := proper
      simp [outer, inner, Decision.entry, Expr.seenThrough, complex]

/-- There is room for further references above a decision exactly when there is
room above its entry, counting the reference that the decision stacks. -/
theorem Proper.room_iff {limit count : Nat} {decision : Decision}
    (proper : decision.Proper) (scope : Table) :
    ((decision.outer scope).isReferenceable = true →
        (decision.outer scope).referenceDepth + count ≤ limit) ↔
      (decision.entry.isReferenceable = true →
        decision.entry.referenceDepth + (count + 1) ≤ limit) ∧
      (decision.entry.isReferenceable = false →
        decision.entry.isSimple = false → count + 1 ≤ limit) := by
  cases decision with
  | lift entry =>
      change entry.isReferenceable = true at proper
      simp [outer, Decision.entry, Expr.referenceDepth, proper,
        Nat.add_right_comm, Nat.add_assoc]
  | inline entry =>
      obtain ⟨unnamed, simple⟩ := proper
      simp [outer, Decision.entry, unnamed, simple]
  | name entry aliasName =>
      obtain ⟨unnamed, complex⟩ := proper
      simp [outer, Decision.entry, Expr.referenceDepth, unnamed, complex,
        Nat.add_comm]

end Decision

/-! ## One level above the first -/

/-- Without aliases to generate, the nested query keeps its entries and the
enclosing one sees them through the scope. -/
theorem Select.carryOut_of_no_alias (scope : Table) (projection : List Expr) :
    carryOut scope (projection.map fun entry =>
        if entry.isReferenceable then .lift entry else .inline entry) =
      ⟨⟨scope, projection⟩, projection.map (Expr.seenThrough [scope])⟩ := by
  have inner : ∀ entry : Expr,
      Decision.inner (if entry.isReferenceable then .lift entry
        else .inline entry) = entry := by
    intro entry
    split <;> rfl
  have outer : ∀ entry : Expr,
      Decision.outer scope (if entry.isReferenceable then .lift entry
        else .inline entry) = entry.seenThrough [scope] := by
    intro entry
    cases named : entry.isReferenceable <;>
      simp [Decision.outer, Expr.seenThrough, named]
  simp [carryOut, Function.comp_def, inner, outer]

/-- Where no entry needs an alias and none is too deep, the nested query stays as
it is and the enclosing one sees its entries through the scope, whatever names
are in use. -/
theorem Select.flatten_of_settled {select : Select}
    (nonempty : select.projection ≠ [])
    (settled : ∀ entry ∈ select.projection, entry.needsAlias = false)
    (within : ∀ entry ∈ select.projection,
      entry.outerDepth ≤ config.maxLiftDepth.toNat) :
    select.flatten config =
      .ok ⟨select, select.projection.map (Expr.seenThrough [select.scope])⟩ := by
  apply flatten_eq_ok_iff.mpr
  refine ⟨nonempty, within, ?_⟩
  have decided : select.decisions config.aliasPrefix =
      select.projection.map fun entry =>
        if entry.isReferenceable then .lift entry else .inline entry :=
    decideEntries_of_no_alias settled
  rw [decided, carryOut_of_no_alias]

/-- Carried entries are taken over as they are: each is seen through one more
scope, or one of them is at the limit already. -/
theorem Select.flatten_carried (scope : Table) (nonempty : projection ≠ [])
    (carried : ∀ entry ∈ projection,
      entry.Carried config.maxLiftDepth.toNat) :
    (Select.mk scope projection).flatten config =
      if ∀ entry ∈ projection,
          entry.outerDepth ≤ config.maxLiftDepth.toNat then
        .ok ⟨⟨scope, projection⟩, projection.map (Expr.seenThrough [scope])⟩
      else
        .error (.liftDepthExceeded scope.aliasName
          (config.maxLiftDepth.toNat + 1) config.maxLiftDepth) := by
  by_cases within : ∀ entry ∈ projection,
      entry.outerDepth ≤ config.maxLiftDepth.toNat
  · rw [if_pos within]
    exact flatten_of_settled nonempty
      (fun entry member => (carried entry member).1) within
  · rw [if_neg within]
    cases outcome : (Select.mk scope projection).flatten config with
    | ok result => exact absurd (flatten_eq_ok_iff.mp outcome).2.1 within
    | error fault =>
        rcases flatten_eq_error_iff.mp outcome with ⟨empty, -⟩ |
          ⟨before, entry, after, split, exceeds, -, rfl⟩
        · exact absurd empty nonempty
        · have member : entry ∈ projection := by
            change projection = before ++ entry :: after at split
            simp [split]
          rw [(carried entry member).outerDepth_eq exceeds]

/-! ## All levels above the first -/

section Above

variable (nonempty : projection ≠ [])
  (carried : ∀ entry ∈ projection, entry.Carried config.maxLiftDepth.toNat)

/-- The list of a level that succeeds is carried to the next level. -/
theorem carried_map_seenThrough {limit : Nat} (scope : Table)
    (carried : ∀ entry ∈ projection, entry.Carried limit)
    (within : ∀ entry ∈ projection, entry.outerDepth ≤ limit) :
    ∀ entry ∈ projection.map (Expr.seenThrough [scope]),
      entry.Carried limit := by
  intro entry member
  obtain ⟨below, inside, rfl⟩ := List.mem_map.mp member
  exact (carried below inside).seenThrough scope (within below inside)

include nonempty carried

/-- The levels succeed exactly when there is room for one more reference at each
of them. -/
theorem flattenThrough_carried_fault_eq_none_iff (scopes : List Table) :
    (flattenThrough config scopes projection).fault = none ↔
      ∀ entry ∈ projection, entry.isReferenceable = true →
        entry.referenceDepth + scopes.length ≤ config.maxLiftDepth.toNat := by
  induction scopes generalizing projection with
  | nil =>
      simp only [flattenThrough, List.length_nil, Nat.add_zero, true_iff]
      exact fun entry member _ => (carried entry member).2
  | cons scope scopes inductionHypothesis =>
      by_cases within : ∀ entry ∈ projection,
          entry.outerDepth ≤ config.maxLiftDepth.toNat
      · have flattened := Select.flatten_carried scope nonempty carried
        rw [if_pos within] at flattened
        rw [flattenThrough_of_ok flattened,
          inductionHypothesis (by simpa using nonempty)
            (carried_map_seenThrough scope carried within)]
        simp only [List.forall_mem_map, Expr.isReferenceable_seenThrough]
        refine forall₂_congr fun entry member => forall_congr' fun named => ?_
        rw [Expr.referenceDepth_seenThrough scope named, List.length_cons]
        omega
      · have failed := Select.flatten_carried scope nonempty carried
        rw [if_neg within] at failed
        rw [flattenThrough_of_error failed]
        simp only [reduceCtorEq, false_iff]
        intro room
        apply within
        intro entry member
        rw [Expr.outerDepth_le_iff_of_not_needsAlias (carried entry member).1]
        intro named
        have := room entry member named
        rw [List.length_cons] at this
        omega

/-- Every level takes its projection over unchanged, and all that it does is to
see the entries through its scope. -/
theorem flattenThrough_carried_level {level : Nat} {result : Flattened}
    (reached : (flattenThrough config scopes projection).levels[level]? =
      some result) :
    result.subquery.projection =
        projection.map (Expr.seenThrough (scopes.take level)) ∧
      result.outerProjection =
        projection.map (Expr.seenThrough (scopes.take (level + 1))) := by
  induction scopes generalizing projection level with
  | nil => simp [flattenThrough] at reached
  | cons scope scopes inductionHypothesis =>
      have step := Select.flatten_carried scope nonempty carried
      split at step
      next within =>
        rw [flattenThrough_of_ok step] at reached
        cases level with
        | zero =>
            simp only [List.getElem?_cons_zero, Option.some.injEq] at reached
            subst reached
            exact ⟨(List.map_id'' Expr.seenThrough_nil projection).symm, rfl⟩
        | succ level =>
            rw [List.getElem?_cons_succ] at reached
            obtain ⟨inner, outer⟩ :=
              inductionHypothesis (by simpa using nonempty)
                (carried_map_seenThrough scope carried within) reached
            rw [inner, outer]
            simp only [List.map_map, List.take_succ_cons]
            constructor <;>
              exact List.map_congr_left fun entry _ =>
                (Expr.seenThrough_cons scope _ entry).symm
      next =>
        rw [flattenThrough_of_error step] at reached
        simp at reached

/-- The level that fails does so at a depth one beyond the limit. -/
theorem flattenThrough_carried_fault
    (failed : (flattenThrough config scopes projection).fault = some fault) :
    ∃ scope,
      scopes[(flattenThrough config scopes projection).levels.length]? =
        some scope ∧
      fault = .liftDepthExceeded scope.aliasName
        (config.maxLiftDepth.toNat + 1) config.maxLiftDepth := by
  induction scopes generalizing projection with
  | nil => simp [flattenThrough] at failed
  | cons scope scopes inductionHypothesis =>
      have step := Select.flatten_carried scope nonempty carried
      split at step
      next within =>
        rw [flattenThrough_of_ok step] at failed ⊢
        simpa using inductionHypothesis (by simpa using nonempty)
          (carried_map_seenThrough scope carried within) failed
      next =>
        rw [flattenThrough_of_error step] at failed ⊢
        exact ⟨scope, rfl, (Option.some.inj failed).symm⟩

end Above

/-! ## All levels -/

section All

variable {select : Select} {first : Flattened}

/-- What the first level makes is carried to the second. -/
theorem Select.carried_of_flatten (flattened : select.flatten config = .ok first) :
    first.outerProjection ≠ [] ∧
      ∀ entry ∈ first.outerProjection,
        entry.Carried config.maxLiftDepth.toNat := by
  obtain ⟨nonempty, within, rfl⟩ := flatten_eq_ok_iff.mp flattened
  have entries := decisions_map_entry config.aliasPrefix select
  refine ⟨?_, ?_⟩
  · intro empty
    simp only [carryOut, List.map_eq_nil_iff] at empty
    simp [empty, nonempty.symm] at entries
  · intro entry member
    obtain ⟨decision, inside, rfl⟩ := List.mem_map.mp member
    have proper := decisions_proper decision inside
    apply proper.outer_carried select.scope
    rw [proper.depth_eq]
    exact within decision.entry (entry_mem inside)

/-- The levels succeed exactly when there are entries, and room for a reference
at each level above every entry that is not inlined. -/
theorem flattenThrough_fault_eq_none_iff (config : Config) (select : Select)
    (scopes : List Table) :
    (flattenThrough config (select.scope :: scopes) select.projection).fault =
        none ↔
      select.projection ≠ [] ∧
      (∀ entry ∈ select.projection, entry.isReferenceable = true →
        entry.referenceDepth + (scopes.length + 1) ≤
          config.maxLiftDepth.toNat) ∧
      (∀ entry ∈ select.projection, entry.isReferenceable = false →
        entry.isSimple = false →
          scopes.length + 1 ≤ config.maxLiftDepth.toNat) := by
  cases flattened : select.flatten config with
  | error fault =>
      rw [flattenThrough_of_error flattened]
      simp only [reduceCtorEq, false_iff]
      rintro ⟨nonempty, named, complex⟩
      have within : ∀ entry ∈ select.projection,
          entry.outerDepth ≤ config.maxLiftDepth.toNat := by
        intro entry member
        have := named entry member
        have := complex entry member
        unfold Expr.outerDepth
        grind
      have := Select.flatten_eq_ok_iff.mpr ⟨nonempty, within, rfl⟩
      rw [flattened] at this
      cases this
  | ok first =>
      obtain ⟨nonempty, carried⟩ := Select.carried_of_flatten flattened
      rw [flattenThrough_of_ok flattened,
        flattenThrough_carried_fault_eq_none_iff nonempty carried]
      obtain ⟨entries, -, rfl⟩ := Select.flatten_eq_ok_iff.mp flattened
      rw [← select.decisions_map_entry config.aliasPrefix] at entries ⊢
      simp only [Select.carryOut, List.forall_mem_map, ne_eq, entries,
        not_false_eq_true, true_and, ← forall_and]
      exact forall₂_congr fun decision member =>
        (Select.decisions_proper decision member).room_iff select.scope

/-- At every level that is carried out, the list for the enclosing query is that
of the first level, seen through the scopes in between; and a level above the
first takes over the list of the level below. -/
theorem flattenThrough_level {level : Nat} {result : Flattened}
    (flattened : select.flatten config = .ok first)
    (reached : (flattenThrough config (select.scope :: scopes)
      select.projection).levels[level]? = some result) :
    result.outerProjection =
        first.outerProjection.map (Expr.seenThrough (scopes.take level)) ∧
      ∀ below, level = below + 1 →
        result.subquery.projection =
          first.outerProjection.map (Expr.seenThrough (scopes.take below)) := by
  rw [flattenThrough_of_ok flattened] at reached
  cases level with
  | zero =>
      simp only [List.getElem?_cons_zero, Option.some.injEq] at reached
      subst reached
      refine ⟨(List.map_id'' Expr.seenThrough_nil _).symm, ?_⟩
      intro below impossible
      cases impossible
  | succ level =>
      rw [List.getElem?_cons_succ] at reached
      obtain ⟨nonempty, carried⟩ := Select.carried_of_flatten flattened
      obtain ⟨inner, outer⟩ :=
        flattenThrough_carried_level nonempty carried reached
      refine ⟨outer, ?_⟩
      rintro below ⟨⟩
      exact inner

/-- No level above the first changes its projection: it generates no alias. -/
theorem flattenThrough_projection_unchanged {level : Nat}
    {lower upper : Flattened} (flattened : select.flatten config = .ok first)
    (below : (flattenThrough config (select.scope :: scopes)
      select.projection).levels[level]? = some lower)
    (above : (flattenThrough config (select.scope :: scopes)
      select.projection).levels[level + 1]? = some upper) :
    upper.subquery.projection = lower.outerProjection := by
  obtain ⟨outer, -⟩ := flattenThrough_level flattened below
  obtain ⟨-, inner⟩ := flattenThrough_level flattened above
  rw [inner level rfl, outer]

/-- Where no level fails, the last one leaves the list of the first level, seen
through all further scopes. -/
theorem flattenThrough_getLast? (flattened : select.flatten config = .ok first)
    (succeeded : (flattenThrough config (select.scope :: scopes)
      select.projection).fault = none) :
    ∃ last, (flattenThrough config (select.scope :: scopes)
        select.projection).levels.getLast? = some last ∧
      last.outerProjection =
        first.outerProjection.map (Expr.seenThrough scopes) := by
  have length :=
    (flattenThrough_fault_eq_none_iff_length config _ _).mp succeeded
  rw [List.length_cons] at length
  have bound : scopes.length < (flattenThrough config (select.scope :: scopes)
      select.projection).levels.length := by omega
  have reached := List.getElem?_eq_getElem bound
  obtain ⟨outer, -⟩ := flattenThrough_level flattened reached
  rw [List.take_length] at outer
  refine ⟨_, ?_, outer⟩
  rw [List.getLast?_eq_getElem?, length]
  exact reached

/-- A level that fails above one that succeeded exceeds the limit by one. -/
theorem flattenThrough_fault_above
    (failed : (flattenThrough config (select.scope :: scopes)
      select.projection).fault = some fault)
    (above : (flattenThrough config (select.scope :: scopes)
      select.projection).levels ≠ []) :
    ∃ scope,
      (select.scope :: scopes)[(flattenThrough config (select.scope :: scopes)
        select.projection).levels.length]? = some scope ∧
      fault = .liftDepthExceeded scope.aliasName
        (config.maxLiftDepth.toNat + 1) config.maxLiftDepth := by
  cases flattened : select.flatten config with
  | error other =>
      rw [flattenThrough_of_error flattened] at above
      exact absurd rfl above
  | ok first =>
      obtain ⟨entries, carried⟩ := Select.carried_of_flatten flattened
      rw [flattenThrough_of_ok flattened] at failed ⊢
      simpa using flattenThrough_carried_fault entries carried failed

/-- An entry of the first level at its place in the list of a level above: the
entry itself if it was inlined, and otherwise its form inside the nested query
under one reference for each scope, the first scope innermost. -/
theorem Select.seenThrough_of_flatten {position : Nat} {entry : Expr}
    (flattened : select.flatten config = .ok first) (scopes : List Table)
    (found : select.projection[position]? = some entry) :
    ∃ inner, first.subquery.projection[position]? = some inner ∧
      (first.outerProjection.map (Expr.seenThrough scopes))[position]? =
        some (if entry.isReferenceable = false ∧ entry.isSimple = true
          then entry
          else (select.scope :: scopes).foldl .reference inner) := by
  obtain ⟨decision, decided, proper, rfl⟩ := decision_at config.aliasPrefix found
  rw [eq_carryOut_of_flatten flattened]
  refine ⟨decision.inner, ?_, ?_⟩
  · simp [carryOut, decided]
  · rw [← proper.seenThrough_outer select.scope scopes]
    simp [carryOut, decided]

end All

/-- Flattening through any number of scopes.  All levels succeed exactly when
there are entries, the depth of every referenceable entry leaves room for one
reference a level, and so does the limit itself if an entry needs an alias.
Then no level above the first changes its projection, an inlined entry comes out
as it went in, and every other entry comes out under one reference for each
scope.  A level above the first that fails exceeds the limit by one. -/
theorem flattenThrough_levels (config : Config) (select : Select)
    (scopes : List Table) :
    let limit := config.maxLiftDepth.toNat
    let count := scopes.length + 1
    let run := flattenThrough config (select.scope :: scopes) select.projection
    (run.fault = none ↔ run.levels.length = count) ∧
    (run.fault = none ↔
      select.projection ≠ [] ∧
      (∀ entry ∈ select.projection, entry.isReferenceable = true →
        entry.referenceDepth + count ≤ limit) ∧
      ((∃ entry ∈ select.projection,
          entry.isReferenceable = false ∧ entry.isSimple = false) →
        count ≤ limit)) ∧
    (run.fault = none →
      ∃ first last,
        select.flatten config = .ok first ∧
        run.levels.head? = some first ∧
        run.levels.getLast? = some last ∧
        (∀ (level : Nat) (lower upper : Flattened),
          run.levels[level]? = some lower →
          run.levels[level + 1]? = some upper →
          upper.subquery.projection = lower.outerProjection) ∧
        last.outerProjection.length = select.projection.length ∧
        ∀ (position : Nat) (entry : Expr),
          select.projection[position]? = some entry →
          ∃ inner, first.subquery.projection[position]? = some inner ∧
            last.outerProjection[position]? =
              some (if entry.isReferenceable = false ∧ entry.isSimple = true
                then entry
                else (select.scope :: scopes).foldl .reference inner)) ∧
    (∀ fault, run.fault = some fault → run.levels ≠ [] →
      ∃ scope, (select.scope :: scopes)[run.levels.length]? = some scope ∧
        fault = .liftDepthExceeded scope.aliasName (limit + 1)
          config.maxLiftDepth) := by
  intro limit count run
  refine ⟨flattenThrough_fault_eq_none_iff_length config _ _, ?_, ?_, ?_⟩
  · rw [flattenThrough_fault_eq_none_iff]
    simp only [forall_exists_index, and_imp]
    exact Iff.rfl
  · intro succeeded
    cases flattened : select.flatten config with
    | error fault =>
        have failed : run = ⟨[], some fault⟩ := flattenThrough_of_error flattened
        simp [failed] at succeeded
    | ok first =>
        obtain ⟨last, isLast, outer⟩ :=
          flattenThrough_getLast? flattened succeeded
        refine ⟨first, last, rfl, ?_, isLast, ?_, ?_, ?_⟩
        · exact congrArg (fun run => run.levels.head?)
            (flattenThrough_of_ok flattened)
        · intro level lower upper below above
          exact flattenThrough_projection_unchanged flattened below above
        · rw [outer, Select.eq_carryOut_of_flatten flattened]
          simp [Select.carryOut]
        · intro position entry found
          rw [outer]
          exact Select.seenThrough_of_flatten flattened scopes found
  · intro fault failed above
    exact flattenThrough_fault_above failed above

end ScopedQuery
