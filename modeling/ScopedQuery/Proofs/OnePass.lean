/-
Module: ScopedQuery.Proofs.OnePass
Purpose: Flattening as one pass that takes entry after entry and stops at the
  first that is too deep, and the outcome that it has.
Trusted boundary: none
Main exports:
  Expr.checked, Pass, Pass.step, Select.onePass, Pass.foldlM_step,
  Select.onePass_eq, Select.flatten_eq_emptyProjection_iff,
  Select.flatten_eq_liftDepthExceeded_iff, Select.flatten_succeeds_iff,
  flatten_outcome
-/
import ScopedQuery.Proofs.Flattening

namespace ScopedQuery

/-!
Flattening decides about all entries and then looks for one that is too deep.
The same comes out of a single pass that knows only the entries behind it: it
lifts, inlines or names the entry at hand, writes what it did, and checks the
new reference before it goes on.  An entry that fails the check ends the pass
when the names and the lists have already grown, but of these nothing is left
in the fault.  So the first entry beyond the limit is the one that is reported,
whatever stands behind it.
-/

/-- A reference that flattening made, unless it stacks more references than the
settings allow. -/
def Expr.checked (config : Config) (scopeAlias : String) (reference : Expr) :
    Except FlattenError Expr :=
  if reference.referenceDepth > config.maxLiftDepth.toNat then
    .error (.liftDepthExceeded scopeAlias reference.referenceDepth
      config.maxLiftDepth)
  else .ok reference

/-- What a pass has when it comes to an entry: the names that are taken, the two
projections so far, and the records. -/
structure Pass where
  taken : List String
  inner : List Expr
  outer : List Expr
  records : List LogRecord

/-- What a pass leaves that an entry has stopped. -/
structure Stopped where
  fault : FlattenError
  records : List LogRecord

namespace Pass

/-- Add an entry to the two projections, unless its reference is too deep.  The
records are written before that is known. -/
def add (config : Config) (scope : Table) (pass : Pass) (inner : Expr)
    (reference : Expr) (records : List LogRecord) : Except Stopped Pass :=
  match reference.checked config scope.aliasName with
  | .error fault => .error ⟨fault, pass.records ++ records⟩
  | .ok outer =>
      .ok ⟨pass.taken, pass.inner ++ [inner], pass.outer ++ [outer],
        pass.records ++ records⟩

/-- Take the next entry. -/
def step (config : Config) (scope : Table) (pass : Pass) (entry : Expr) :
    Except Stopped Pass :=
  match entry.lift? scope with
  | some reference =>
      pass.add config scope entry reference [entry.liftRecord scope]
  | none =>
      if entry.isSimple then
        .ok ⟨pass.taken, pass.inner ++ [entry], pass.outer ++ [entry],
          pass.records ++
            [entry.liftRecord scope, .inlining entry scope.aliasName]⟩
      else
        let aliasName := AliasName.fresh config.aliasPrefix pass.taken
        let aliased := .aliased entry aliasName
        { pass with taken := aliasName :: pass.taken }.add config scope aliased
          (.reference aliased scope)
          [entry.liftRecord scope, .aliasing entry aliasName scope.aliasName]

end Pass

/-- The pass over all entries of a nested query, from the names that they have
and two empty projections. -/
def Select.pass (config : Config) (select : Select) : Except Stopped Pass :=
  select.projection.foldlM (Pass.step config select.scope)
    ⟨select.outerNames, [], [], []⟩

/-- Flatten a nested query in one pass: the outcome and the records. -/
def Select.onePass (config : Config) (select : Select) :
    Except FlattenError Flattened × List LogRecord :=
  if select.projection.isEmpty then
    (.error (.emptyProjection select.scope.aliasName), [])
  else
    match select.pass config with
    | .error stopped => (.error stopped.fault, stopped.records)
    | .ok pass => (.ok ⟨⟨select.scope, pass.inner⟩, pass.outer⟩, pass.records)

/-! ## One entry -/

namespace Pass

/-- Carry out a decision about the next entry. -/
def carryOut (config : Config) (scope : Table) (pass : Pass)
    (decision : Decision) : Except Stopped Pass :=
  if decision.depth ≤ config.maxLiftDepth.toNat then
    .ok ⟨decision.aliasName?.toList ++ pass.taken,
      pass.inner ++ [decision.inner], pass.outer ++ [decision.outer scope],
      pass.records ++ decision.records scope⟩
  else
    .error ⟨.liftDepthExceeded scope.aliasName decision.depth
        config.maxLiftDepth,
      pass.records ++ decision.records scope⟩

variable {config : Config} {scope : Table} {pass : Pass} {entry : Expr}

/-- A reference is added exactly when it is within the limit. -/
theorem add_eq (pass : Pass) (inner reference : Expr)
    (records : List LogRecord) :
    pass.add config scope inner reference records =
      if reference.referenceDepth ≤ config.maxLiftDepth.toNat then
        .ok ⟨pass.taken, pass.inner ++ [inner], pass.outer ++ [reference],
          pass.records ++ records⟩
      else
        .error ⟨.liftDepthExceeded scope.aliasName reference.referenceDepth
            config.maxLiftDepth,
          pass.records ++ records⟩ := by
  rw [add, Expr.checked]
  by_cases within : reference.referenceDepth ≤ config.maxLiftDepth.toNat
  · rw [if_neg (Nat.not_lt_of_le within), if_pos within]
  · rw [if_pos (Nat.lt_of_not_le within), if_neg within]

/-- Taking an entry carries out the decision about it. -/
theorem step_eq (pass : Pass) (entry : Expr) :
    pass.step config scope entry =
      pass.carryOut config scope
        (.about config.aliasPrefix pass.taken entry) := by
  cases named : entry.isReferenceable with
  | true =>
      simp only [step, Expr.lift?_of_referenceable named, add_eq,
        Decision.about, named]
      rfl
  | false =>
      cases simple : entry.isSimple with
      | true =>
          simp only [step, Expr.lift?_of_not_referenceable named, simple,
            Decision.about, named]
          rfl
      | false =>
          simp only [step, Expr.lift?_of_not_referenceable named, simple,
            add_eq, Decision.about, named]
          rfl

/-! ## All entries -/

/-- A decision that is carried out takes the alias that it generates. -/
theorem taken_of_carryOut {decision : Decision} {next : Pass}
    (carried : pass.carryOut config scope decision = .ok next) :
    next.taken = decision.aliasName?.toList ++ pass.taken := by
  rw [carryOut] at carried
  split at carried
  · cases carried
    rfl
  · cases carried

/-- Taking entry after entry carries out the decisions about them one by one. -/
theorem foldlM_step (config : Config) (scope : Table) (entries : List Expr)
    (pass : Pass) :
    entries.foldlM (step config scope) pass =
      (decideEntries config.aliasPrefix pass.taken entries).foldlM
        (carryOut config scope) pass := by
  induction entries generalizing pass with
  | nil => rfl
  | cons entry entries inductionHypothesis =>
      rw [decideEntries_cons, List.foldlM_cons, List.foldlM_cons, step_eq]
      cases carried : pass.carryOut config scope
          (.about config.aliasPrefix pass.taken entry) with
      | error stopped => rfl
      | ok next =>
          rw [← taken_of_carryOut carried]
          exact inductionHypothesis next

/-- Carrying out decisions one by one stops at the first that is too deep, with
the records up to and including it. -/
theorem foldlM_carryOut (decisions : List Decision) (pass : Pass) :
    decisions.foldlM (carryOut config scope) pass =
      let records := pass.records ++
        (upToFirstFailing (Decision.within config.maxLiftDepth)
          decisions).flatMap (Decision.records scope)
      match decisions.find? fun decision =>
          !decision.within config.maxLiftDepth with
      | some decision =>
          .error ⟨.liftDepthExceeded scope.aliasName decision.depth
            config.maxLiftDepth, records⟩
      | none =>
          .ok ⟨(decisions.filterMap Decision.aliasName?).reverse ++ pass.taken,
            pass.inner ++ decisions.map Decision.inner,
            pass.outer ++ decisions.map (Decision.outer scope), records⟩ := by
  induction decisions generalizing pass with
  | nil => simp [upToFirstFailing, pure, Except.pure]
  | cons decision decisions inductionHypothesis =>
      rw [List.foldlM_cons, carryOut]
      by_cases within : decision.depth ≤ config.maxLiftDepth.toNat
      · have test : decision.within config.maxLiftDepth = true := by
          simpa [Decision.within] using within
        rw [if_pos within]
        refine (inductionHypothesis _).trans ?_
        simp only [upToFirstFailing, test, if_true, List.flatMap_cons,
          List.find?_cons, Bool.not_true, List.append_assoc]
        cases found : decisions.find? fun decision =>
            !decision.within config.maxLiftDepth with
        | some deep => rfl
        | none =>
            cases generated : decision.aliasName? with
            | none => simp [generated]
            | some aliasName => simp [generated]
      · have test : decision.within config.maxLiftDepth = false := by
          simpa [Decision.within] using within
        rw [if_neg within]
        simp [upToFirstFailing, test, bind, Except.bind]

end Pass

namespace Select

/-- The pass over a nested query carries out its decisions, as far as the first
that is too deep. -/
theorem pass_eq (config : Config) (select : Select) :
    select.pass config =
      let decisions := select.decisions config.aliasPrefix
      match decisions.find? fun decision =>
          !decision.within config.maxLiftDepth with
      | some decision =>
          .error ⟨.liftDepthExceeded select.scope.aliasName decision.depth
            config.maxLiftDepth, select.flattenRecords config⟩
      | none =>
          .ok ⟨(decisions.filterMap Decision.aliasName?).reverse ++
              select.outerNames,
            decisions.map Decision.inner,
            decisions.map (Decision.outer select.scope),
            select.flattenRecords config⟩ := by
  rw [pass, Pass.foldlM_step, Pass.foldlM_carryOut]
  rfl

/-- One pass has the outcome of flattening and writes its records. -/
theorem onePass_eq (config : Config) (select : Select) :
    select.onePass config =
      (select.flatten config, select.flattenRecords config) := by
  rw [onePass, flatten, pass_eq]
  by_cases empty : select.projection.isEmpty
  · rw [if_pos empty, if_pos empty]
    have noEntries : select.projection = [] := List.isEmpty_iff.mp empty
    simp [flattenRecords, decisions, noEntries, decideEntries, upToFirstFailing]
  · rw [if_neg empty, if_neg empty]
    dsimp only
    cases (select.decisions config.aliasPrefix).find? fun decision =>
        !decision.within config.maxLiftDepth with
    | some deep => rfl
    | none => rfl

end Select

/-! ## The outcome -/

namespace Select

variable {config : Config} {select : Select}

/-- Flattening fails for want of entries exactly when there are none. -/
theorem flatten_eq_emptyProjection_iff {scopeAlias : String} :
    select.flatten config = .error (.emptyProjection scopeAlias) ↔
      select.projection = [] ∧ scopeAlias = select.scope.aliasName := by
  rw [flatten_eq_error_iff]
  simp

/-- Flattening fails for too deep a reference exactly when an entry is beyond the
limit, and the first of them is the one that it reports. -/
theorem flatten_eq_liftDepthExceeded_iff {scopeAlias : String} {depth : Nat}
    {greatest : UInt32} :
    select.flatten config =
        .error (.liftDepthExceeded scopeAlias depth greatest) ↔
      (∃ before entry after,
        select.projection = before ++ entry :: after ∧
        (∀ earlier ∈ before,
          earlier.outerDepth ≤ config.maxLiftDepth.toNat) ∧
        config.maxLiftDepth.toNat < entry.outerDepth ∧
        depth = entry.outerDepth) ∧
      scopeAlias = select.scope.aliasName ∧
      greatest = config.maxLiftDepth := by
  rw [flatten_eq_error_iff]
  constructor
  · intro failed
    rcases failed with ⟨-, other⟩ |
      ⟨before, entry, after, split, exceeds, within, same⟩
    · cases other
    · cases same
      exact ⟨⟨before, entry, after, split, within, exceeds, rfl⟩, rfl, rfl⟩
  · intro first
    rcases first with
      ⟨⟨before, entry, after, split, within, exceeds, rfl⟩, rfl, rfl⟩
    exact .inr ⟨before, entry, after, split, exceeds, within, rfl⟩

/-- Flattening succeeds exactly when there are entries and each is within the
limit. -/
theorem flatten_succeeds_iff :
    (∃ result, select.flatten config = .ok result) ↔
      select.projection ≠ [] ∧
        ∀ entry ∈ select.projection,
          entry.outerDepth ≤ config.maxLiftDepth.toNat := by
  constructor
  · intro succeeds
    rcases succeeds with ⟨result, flattened⟩
    rcases flatten_eq_ok_iff.mp flattened with ⟨nonempty, within, -⟩
    exact ⟨nonempty, within⟩
  · intro possible
    rcases possible with ⟨nonempty, within⟩
    exact ⟨_, flatten_eq_ok_iff.mpr ⟨nonempty, within, rfl⟩⟩

end Select

/-- How flattening ends.  It goes as one pass does.  It fails for want of entries
exactly when there are none, and for too deep a reference exactly when an entry
exceeds the limit, of which the first is reported; otherwise it succeeds.  The
stem of the aliases has no influence on whether and how it fails, nor has the
limit on what comes out of it. -/
theorem flatten_outcome (config : Config) (select : Select) :
    let limit := config.maxLiftDepth.toNat
    select.onePass config =
      (select.flatten config, select.flattenRecords config) ∧
    (∀ scopeAlias,
      select.flatten config = .error (.emptyProjection scopeAlias) ↔
        select.projection = [] ∧ scopeAlias = select.scope.aliasName) ∧
    (∀ scopeAlias depth greatest,
      select.flatten config =
          .error (.liftDepthExceeded scopeAlias depth greatest) ↔
        (∃ before entry after,
          select.projection = before ++ entry :: after ∧
          (∀ earlier ∈ before, earlier.outerDepth ≤ limit) ∧
          limit < entry.outerDepth ∧ depth = entry.outerDepth) ∧
        scopeAlias = select.scope.aliasName ∧
        greatest = config.maxLiftDepth) ∧
    ((∃ result, select.flatten config = .ok result) ↔
      select.projection ≠ [] ∧
        ∀ entry ∈ select.projection, entry.outerDepth ≤ limit) ∧
    (∀ stem fault,
      select.flatten { config with aliasPrefix := stem } = .error fault ↔
        select.flatten config = .error fault) ∧
    (∀ otherLimit result other,
      select.flatten config = .ok result →
      select.flatten { config with maxLiftDepth := otherLimit } = .ok other →
      other = result) := by
  intro limit
  refine ⟨select.onePass_eq config,
    fun _ => Select.flatten_eq_emptyProjection_iff,
    fun _ _ _ => Select.flatten_eq_liftDepthExceeded_iff,
    Select.flatten_succeeds_iff, ?_, ?_⟩
  · intro stem fault
    rw [Select.flatten_eq_error_iff, Select.flatten_eq_error_iff]
  · intro otherLimit result other flattened flattenedOther
    rw [Select.eq_carryOut_of_flatten flattened,
      Select.eq_carryOut_of_flatten flattenedOther]

/-- Without any depth allowed a constant still passes.  Of the two entries after
it the first is reported, though the second is deeper. -/
example :
    (Select.under "t2" ⟨3⟩
      [.constant .null, .nullable (.parameter "p"),
        .reference (.reference (.aliased (.other "a + b") "c0")
          (.subquery "t0" ⟨1⟩)) (.subquery "t1" ⟨2⟩)]).flatten
        { maxLiftDepth := 0 } =
      .error (.liftDepthExceeded "t2" 1 0) := rfl

end ScopedQuery
