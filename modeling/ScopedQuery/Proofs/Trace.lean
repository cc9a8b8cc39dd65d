/-
Module: ScopedQuery.Proofs.Trace
Purpose: The records of a run of flattening tell entry by entry what was decided,
  up to the entry that made the run fail.
Trusted boundary: none
Main exports:
  Expr.logLines, Select.aliasAt, Select.traceLines,
  Flattened.generatedAliases, Select.aliasName?_at, Select.lines_of_prefix,
  upToFirstFailing_mono, Select.flattenRecords_mono, flatten_writes_its_trace
-/
import ScopedQuery.Proofs.AliasNumbers
import ScopedQuery.Proofs.OnePass

namespace ScopedQuery

/-!
What is written about an entry depends on the entry, on the alias of the scope
and on the alias that the entry gets, which is settled by the names of all entries
and the entries before it.  The limit of depth has no part in it: it only tells
after how many entries a run stops.  So the lines of a run are those of a
beginning of the projection, and a higher limit can only make it longer.
-/

/-! ## What is to be written -/

/-- A line of a log. -/
def logLine (level text : String) : String :=
  level ++ " " ++ text

/-- The lines about an entry: whether it can be lifted, and if not, what is done
with it instead. -/
def Expr.logLines (scopeAlias aliasName : String) (entry : Expr) :
    List String :=
  if entry.isReferenceable then
    [logLine "DEBUG"
      ("Lifting " ++ entry.render ++ " into scope '" ++ scopeAlias ++ "'")]
  else
    [logLine "TRACE" ("Not liftable, caller must inline: " ++ entry.render),
      if entry.isSimple then
        logLine "TRACE"
          ("Inlining simple projection " ++ entry.render ++ " from '" ++
            scopeAlias ++ "'")
      else
        logLine "DEBUG"
          ("Aliasing " ++ entry.render ++ " as '" ++ aliasName ++
            "' inside '" ++ scopeAlias ++ "'")]

/-- The alias that an entry gets at a position, if it gets one: the free number
whose index is the number of entries before it that got one. -/
noncomputable def Select.aliasAt (stem : String) (select : Select)
    (position : Nat) : String :=
  AliasName.numbered stem (AliasName.freeNumber stem select.outerNames
    ((select.projection.take position).countP Expr.needsAlias))

/-- The lines about entries with which the projection begins. -/
noncomputable def Select.traceLines (stem : String) (select : Select)
    (entries : List Expr) : List String :=
  entries.zipIdx.flatMap fun (entry, position) =>
    entry.logLines select.scope.aliasName (select.aliasAt stem position)

/-- The alias that an entry has after flattening and did not have before. -/
def Expr.newAlias? : Expr → Expr → Option String
  | .aliased _ _, _ => none
  | _, .aliased _ aliasName => some aliasName
  | _, _ => none

/-- The aliases that the rewritten entries have and those of the input had
not. -/
def Flattened.generatedAliases (select : Select) (result : Flattened) :
    List String :=
  (select.projection.zip result.subquery.projection).filterMap
    fun (before, after) => before.newAlias? after

/-- The alias that a record tells of. -/
def LogRecord.aliasName? : LogRecord → Option String
  | .aliasing _ aliasName _ => some aliasName
  | _ => none

/-! ## One decision -/

/-- What can be referenced is recorded as lifted. -/
theorem Expr.liftRecord_of_referenceable {entry : Expr}
    (named : entry.isReferenceable = true) (scope : Table) :
    entry.liftRecord scope = .lifting entry scope.aliasName := by
  rw [liftRecord, if_pos named]

/-- What cannot be referenced is recorded as not liftable. -/
theorem Expr.liftRecord_of_not_referenceable {entry : Expr}
    (unnamed : entry.isReferenceable = false) (scope : Table) :
    entry.liftRecord scope = .notLiftable entry := by
  simp [liftRecord, unnamed]

namespace Decision

variable {decision : Decision}

/-- A decision is within a limit if its entry is. -/
theorem Proper.within_iff (proper : decision.Proper) (limit : UInt32) :
    decision.within limit = true ↔
      decision.entry.outerDepth ≤ limit.toNat := by
  rw [within, proper.depth_eq, decide_eq_true_iff]

/-- The records of a decision read as the lines about its entry. -/
theorem Proper.lines_eq (proper : decision.Proper) (scope : Table)
    {aliasName : String}
    (named : decision.entry.needsAlias = true →
      decision.aliasName? = some aliasName) :
    (decision.records scope).map LogRecord.render =
      decision.entry.logLines scope.aliasName aliasName := by
  cases decision with
  | lift entry =>
      have referenceable : entry.isReferenceable = true := proper
      rw [records, Expr.liftRecord_of_referenceable referenceable,
        Decision.entry, Expr.logLines, if_pos referenceable]
      rfl
  | inline entry =>
      obtain ⟨unnamed, simple⟩ := proper
      rw [records, Expr.liftRecord_of_not_referenceable unnamed,
        Decision.entry, Expr.logLines, if_neg (by simp [unnamed]),
        if_pos simple]
      rfl
  | name entry chosen =>
      obtain ⟨unnamed, complex⟩ := proper
      have same : chosen = aliasName := by
        simpa [aliasName?, Decision.entry, Expr.needsAlias, unnamed, complex]
          using named
      rw [records, Expr.liftRecord_of_not_referenceable unnamed, same,
        Decision.entry, Expr.logLines, if_neg (by simp [unnamed]),
        if_neg (by simp [complex])]
      rfl

/-- The records of a decision tell of the alias that it generates. -/
theorem Proper.filterMap_aliasName?_records (proper : decision.Proper)
    (scope : Table) :
    (decision.records scope).filterMap LogRecord.aliasName? =
      decision.aliasName?.toList := by
  cases decision with
  | lift entry =>
      rw [records, Expr.liftRecord_of_referenceable proper]
      rfl
  | inline entry | name entry aliasName =>
      rw [records, Expr.liftRecord_of_not_referenceable proper.1]
      rfl

/-- An alias is new after flattening exactly when it was generated. -/
theorem Proper.newAlias?_inner (proper : decision.Proper) :
    decision.entry.newAlias? decision.inner = decision.aliasName? := by
  cases decision with
  | lift entry => cases entry <;> rfl
  | inline entry =>
      obtain ⟨unnamed, -⟩ := proper
      cases entry with
      | aliased inner aliasName => cases unnamed
      | _ => rfl
  | name entry aliasName =>
      obtain ⟨unnamed, -⟩ := proper
      cases entry with
      | aliased inner aliasName => cases unnamed
      | _ => rfl

end Decision

/-! ## The beginning of a run -/

section UpToFirstFailing

variable {item : Type} {test other : item → Bool} {items : List item}

/-- Where nothing fails the test, all items are taken. -/
theorem upToFirstFailing_of_forall
    (passes : ∀ taken ∈ items, test taken = true) :
    upToFirstFailing test items = items := by
  induction items with
  | nil => rfl
  | cons head rest inductionHypothesis =>
      obtain ⟨first, later⟩ := List.forall_mem_cons.mp passes
      rw [upToFirstFailing, if_pos first, inductionHypothesis later]

/-- The first item that fails the test is the last that is taken. -/
theorem upToFirstFailing_append_cons {before after : List item}
    {failing : item} (passes : ∀ taken ∈ before, test taken = true)
    (fails : test failing = false) :
    upToFirstFailing test (before ++ failing :: after) =
      before ++ [failing] := by
  induction before with
  | nil => simp [upToFirstFailing, fails]
  | cons head rest inductionHypothesis =>
      obtain ⟨first, later⟩ := List.forall_mem_cons.mp passes
      rw [List.cons_append, upToFirstFailing, if_pos first,
        inductionHypothesis later, List.cons_append]

/-- A test that is passed more easily is passed by more items. -/
theorem upToFirstFailing_mono (items : List item)
    (easier : ∀ tried, test tried = true → other tried = true) :
    upToFirstFailing test items <+: upToFirstFailing other items := by
  induction items with
  | nil => exact List.prefix_refl _
  | cons head rest inductionHypothesis =>
      rw [upToFirstFailing, upToFirstFailing]
      by_cases passes : test head = true
      · rw [if_pos passes, if_pos (easier head passes)]
        exact (List.prefix_cons_inj head).mpr inductionHypothesis
      · rw [if_neg passes]
        by_cases eased : other head = true
        · rw [if_pos eased]
          exact (List.prefix_cons_inj head).mpr (List.nil_prefix)
        · rw [if_neg eased]

end UpToFirstFailing

/-! ## All entries -/

namespace Select

variable {config : Config} {select : Select} {stem : String}

/-- An entry that needs an alias is rewritten with the one that the counter has for
its position. -/
theorem inner_at {position : Nat} {decision : Decision}
    (decided : (select.decisions stem)[position]? = some decision)
    (needed : decision.entry.needsAlias = true) :
    decision.inner =
      .aliased decision.entry (select.aliasAt stem position) := by
  have counted : (select.decisions stem).map Decision.inner =
      countedAliases stem select.outerNames 0 select.projection :=
    map_inner_decideEntries stem select.outerNames select.outerNames
      select.projection 0 (AliasName.takenBelow_zero stem select.outerNames)
  have entryAt : select.projection[position]? = some decision.entry := by
    rw [← select.decisions_map_entry stem, List.getElem?_map, decided]
    rfl
  have innerAt := congrArg (fun entries => entries[position]?) counted
  simpa [decided, getElem?_countedAliases, entryAt, needed, aliasAt]
    using innerAt

/-- The decision about such an entry generates this alias. -/
theorem aliasName?_at {position : Nat} {decision : Decision}
    (decided : (select.decisions stem)[position]? = some decision)
    (needed : decision.entry.needsAlias = true) :
    decision.aliasName? = some (select.aliasAt stem position) := by
  have rewritten := inner_at decided needed
  cases decision with
  | lift entry | inline entry =>
      -- An entry is smaller than an alias of it.
      have larger := congrArg sizeOf rewritten
      simp only [Decision.inner, Decision.entry, Expr.aliased.sizeOf_spec]
        at larger
      omega
  | name entry aliasName =>
      obtain ⟨-, same⟩ := Expr.aliased.inj rewritten
      exact congrArg some same

/-- The first decisions are written about as the entries with which the projection
begins. -/
theorem lines_of_prefix {first : List Decision}
    (begins : first <+: select.decisions stem) :
    (first.flatMap (Decision.records select.scope)).map LogRecord.render =
      select.traceLines stem (first.map Decision.entry) := by
  have each : ∀ indexed ∈ first.zipIdx,
      (indexed.1.records select.scope).map LogRecord.render =
        indexed.1.entry.logLines select.scope.aliasName
          (select.aliasAt stem indexed.2) := by
    intro indexed member
    have here : first[indexed.2]? = some indexed.1 :=
      List.mem_zipIdx_iff_getElem?.mp member
    have decided : (select.decisions stem)[indexed.2]? = some indexed.1 := by
      obtain ⟨rest, whole⟩ := begins
      obtain ⟨inside, -⟩ := List.getElem?_eq_some_iff.mp here
      rw [← whole, List.getElem?_append_left inside, here]
    have proper := decisions_proper _ (List.mem_of_getElem? decided)
    exact proper.lines_eq select.scope (aliasName?_at decided)
  calc (first.flatMap (Decision.records select.scope)).map LogRecord.render
      = first.flatMap fun decision =>
          (decision.records select.scope).map LogRecord.render := by
        rw [List.map_flatMap]
    _ = first.zipIdx.flatMap fun indexed =>
          (indexed.1.records select.scope).map LogRecord.render := by
        conv => lhs; rw [← List.zipIdx_map_fst 0 first, List.flatMap_map]
    _ = first.zipIdx.flatMap fun indexed =>
          indexed.1.entry.logLines select.scope.aliasName
            (select.aliasAt stem indexed.2) :=
        List.flatMap_congr each
    _ = select.traceLines stem (first.map Decision.entry) := by
        rw [traceLines, List.zipIdx_map, List.flatMap_map]
        rfl

/-- A run without a failing entry goes through all decisions. -/
theorem flattenRecords_of_within
    (within : ∀ entry ∈ select.projection,
      entry.outerDepth ≤ config.maxLiftDepth.toNat) :
    select.flattenRecords config =
      (select.decisions config.aliasPrefix).flatMap
        (Decision.records select.scope) := by
  have all : ∀ decision ∈ select.decisions config.aliasPrefix,
      decision.within config.maxLiftDepth = true := by
    intro decision member
    apply ((decisions_proper decision member).within_iff _).mpr
    exact within _ (entry_mem member)
  rw [flattenRecords, upToFirstFailing_of_forall all]

/-- A run without a failing entry writes about all entries. -/
theorem lines_of_within
    (within : ∀ entry ∈ select.projection,
      entry.outerDepth ≤ config.maxLiftDepth.toNat) :
    (select.flattenRecords config).map LogRecord.render =
      select.traceLines config.aliasPrefix select.projection := by
  rw [flattenRecords_of_within within, lines_of_prefix (List.prefix_refl _),
    decisions_map_entry]

/-- A run stops behind the lines about the first failing entry. -/
theorem lines_of_exceeds {before after : List Expr} {entry : Expr}
    (split : select.projection = before ++ entry :: after)
    (within : ∀ earlier ∈ before,
      earlier.outerDepth ≤ config.maxLiftDepth.toNat)
    (exceeds : config.maxLiftDepth.toNat < entry.outerDepth) :
    (select.flattenRecords config).map LogRecord.render =
      select.traceLines config.aliasPrefix (before ++ [entry]) := by
  -- The decisions split where their entries do.
  have entries := select.decisions_map_entry config.aliasPrefix
  rw [split] at entries
  obtain ⟨first, rest, whole, rfl, tail⟩ := List.map_eq_append_iff.mp entries
  obtain ⟨failing, later, rfl, rfl, -⟩ := List.map_eq_cons_iff.mp tail
  have proper : ∀ decision ∈ first ++ failing :: later, decision.Proper := by
    rw [← whole]
    exact decisions_proper
  have passes : ∀ decision ∈ first,
      decision.within config.maxLiftDepth = true := by
    intro decision member
    have suits := proper decision (List.mem_append_left _ member)
    exact (suits.within_iff _).mpr (within _ (List.mem_map_of_mem member))
  have fails : failing.within config.maxLiftDepth = false := by
    have suits := proper failing (by simp)
    rw [Bool.eq_false_iff, ne_eq, suits.within_iff]
    exact Nat.not_le_of_lt exceeds
  have begins : first ++ [failing] <+: select.decisions config.aliasPrefix := by
    rw [whole, List.append_cons first failing later]
    exact List.prefix_append _ _
  rw [flattenRecords, whole, upToFirstFailing_append_cons passes fails,
    lines_of_prefix begins, List.map_append, List.map_singleton]

/-- With a higher limit a run writes what it wrote, and it may go on. -/
theorem flattenRecords_mono (select : Select) (config : Config)
    {higher : UInt32} (le : config.maxLiftDepth ≤ higher) :
    select.flattenRecords config <+:
      select.flattenRecords { config with maxLiftDepth := higher } := by
  have easier : ∀ decision : Decision,
      decision.within config.maxLiftDepth = true →
        decision.within higher = true := by
    intro decision within
    have below := UInt32.le_iff_toNat_le.mp le
    exact decide_eq_true (Nat.le_trans (of_decide_eq_true within) below)
  obtain ⟨more, whole⟩ :=
    upToFirstFailing_mono (select.decisions config.aliasPrefix) easier
  rw [flattenRecords, flattenRecords, ← whole, List.flatMap_append]
  exact List.prefix_append _ _

/-- A run that succeeds writes of the aliases that its result has got, in their
order. -/
theorem filterMap_aliasName?_flattenRecords {result : Flattened}
    (flattened : select.flatten config = .ok result) :
    (select.flattenRecords config).filterMap LogRecord.aliasName? =
      result.generatedAliases select := by
  obtain ⟨-, within, rfl⟩ := flatten_eq_ok_iff.mp flattened
  let decisions := select.decisions config.aliasPrefix
  have proper : ∀ decision ∈ decisions, decision.Proper := decisions_proper
  calc (select.flattenRecords config).filterMap LogRecord.aliasName?
      = decisions.flatMap fun decision =>
          (decision.records select.scope).filterMap LogRecord.aliasName? := by
        rw [flattenRecords_of_within within, List.filterMap_flatMap]
    _ = decisions.flatMap fun decision => decision.aliasName?.toList :=
        List.flatMap_congr fun decision member =>
          (proper decision member).filterMap_aliasName?_records select.scope
    _ = decisions.filterMap Decision.aliasName? :=
        (List.filterMap_eq_flatMap_toList _ _).symm
    _ = decisions.filterMap fun decision =>
          decision.entry.newAlias? decision.inner :=
        List.filterMap_congr fun decision member =>
          (proper decision member).newAlias?_inner.symm
    _ = ((decisions.map Decision.entry).zip
          (decisions.map Decision.inner)).filterMap
            fun (before, after) => before.newAlias? after := by
        rw [List.zip_map', List.filterMap_map]
        rfl
    _ = (carryOut select.scope decisions).generatedAliases select := by
        rw [decisions_map_entry]
        rfl

end Select

/-- What flattening writes is the trace of its decisions.  The records are those of
the single pass that makes the result.  Entry by entry, in their order, they tell
what was done: about all entries if none exceeds the limit, and otherwise about
those up to and including the first that does.  Nothing is written about an empty
projection.  A higher limit can only add records at the end.  When flattening
succeeds, the aliases that the records tell of are, in their order, those that the
result has and the input had not; and the alias that is written about an entry is
the one that the entry has got. -/
theorem flatten_writes_its_trace (config : Config) (select : Select) :
    let limit := config.maxLiftDepth.toNat
    let stem := config.aliasPrefix
    let lines := (select.flattenRecords config).map LogRecord.render
    select.onePass config =
      (select.flatten config, select.flattenRecords config) ∧
    ((∀ entry ∈ select.projection, entry.outerDepth ≤ limit) →
      lines = select.traceLines stem select.projection) ∧
    (∀ before entry after, select.projection = before ++ entry :: after →
      (∀ earlier ∈ before, earlier.outerDepth ≤ limit) →
      limit < entry.outerDepth →
      lines = select.traceLines stem (before ++ [entry])) ∧
    (select.projection = [] → select.flattenRecords config = []) ∧
    (∀ higher, config.maxLiftDepth ≤ higher →
      select.flattenRecords config <+:
        select.flattenRecords { config with maxLiftDepth := higher }) ∧
    (∀ result, select.flatten config = .ok result →
      (select.flattenRecords config).filterMap LogRecord.aliasName? =
        result.generatedAliases select ∧
      ∀ (position : Nat) (entry : Expr),
        select.projection[position]? = some entry →
        entry.needsAlias = true →
        result.subquery.projection[position]? =
          some (.aliased entry (select.aliasAt stem position))) := by
  intro limit stem lines
  refine ⟨select.onePass_eq config, Select.lines_of_within,
    fun _ _ _ => Select.lines_of_exceeds, ?_,
    fun _ => select.flattenRecords_mono config, ?_⟩
  · intro empty
    simp [Select.flattenRecords, Select.decisions, empty, decideEntries,
      upToFirstFailing]
  · intro result flattened
    refine ⟨Select.filterMap_aliasName?_flattenRecords flattened, ?_⟩
    intro position entry found needed
    obtain ⟨decision, decided, proper, rfl⟩ := Select.decision_at stem found
    rw [Select.eq_carryOut_of_flatten flattened, Select.carryOut,
      List.getElem?_map, decided, Option.map_some,
      Select.inner_at decided needed]

/-- A reference that is at the limit already ends the run, and of the last entry
nothing is written. -/
example :
    ((Select.under "t1" ⟨3⟩
      [.other "a + b", .constant .null,
        .reference (.column ⟨⟨"Id", "id"⟩, .physical "Customers" "c" ⟨1⟩⟩)
          (.subquery "t0" ⟨2⟩),
        .other "now()"]).flattenRecords { maxLiftDepth := 1 }).map
          LogRecord.render =
      ["TRACE Not liftable, caller must inline: a + b",
        "DEBUG Aliasing a + b as 'c0' inside 't1'",
        "TRACE Not liftable, caller must inline: NULL",
        "TRACE Inlining simple projection NULL from 't1'",
        "DEBUG Lifting ref(t0 -> c.id) into scope 't1'"] := by
  decide +kernel

end ScopedQuery
