/-
Module: ScopedQuery.Proofs.Sources
Purpose: Other identities of the sources change nothing in what flattening does,
  but for the identities themselves.
Trusted boundary: none
Main exports:
  Expr.mapSources, Expr.sources, Select.mapSources, Flattened.mapSources,
  Expr.sources_mapSources, Expr.render_mapSources, decideEntries_mapSources,
  Select.flatten_mapSources, flatten_ignores_sources
-/
import ScopedQuery.Expr.Resolution
import ScopedQuery.Proofs.Parts
import ScopedQuery.Proofs.Flattening

namespace ScopedQuery

/-!
Identities of sources are drawn at random, so that two runs for one query see
different ones.  They are carried along and never looked at: neither the kind of
a node, nor its name, nor its text depends on them, and these are all that
decides about an entry.  So it does not even matter whether two of them are told
apart, and the function that replaces them may be any function.
-/

/-! ## Replacing identities -/

/-- The table with another source. -/
def Table.mapSource (f : SourceId → SourceId) (table : Table) : Table :=
  { table with source := f table.source }

/-- The column of a table with another source. -/
def Column.mapSource (f : SourceId → SourceId) (column : Column) : Column :=
  { column with table := column.table.mapSource f }

namespace Expr

mutual

/-- The expression with the source of every table in it replaced. -/
def mapSources (f : SourceId → SourceId) : Expr → Expr
  | .column exposed => .column (exposed.mapSource f)
  | .aliased inner aliasName => .aliased (inner.mapSources f) aliasName
  | .reference inner scope =>
      .reference (inner.mapSources f) (scope.mapSource f)
  | .nullable operand => .nullable (operand.mapSources f)
  | .convert operand targetType => .convert (operand.mapSources f) targetType
  | .table marker => .table (marker.mapSource f)
  | .select scope projection =>
      .select (scope.mapSource f) (mapSourcesItems f projection)
  | .constant literal => .constant literal
  | .parameter name => .parameter name
  | .other text => .other text

/-- The expressions of a list with the sources in them replaced. -/
def mapSourcesItems (f : SourceId → SourceId) : List Expr → List Expr
  | [] => []
  | item :: items => item.mapSources f :: mapSourcesItems f items

end

mutual

/-- The sources of the tables in an expression, from left to right, with that of a
node behind those inside it. -/
def sources : Expr → List SourceId
  | .column exposed => [exposed.table.source]
  | .aliased inner _ => inner.sources
  | .reference inner scope => inner.sources ++ [scope.source]
  | .nullable operand => operand.sources
  | .convert operand _ => operand.sources
  | .table marker => [marker.source]
  | .select scope projection => sourcesOfItems projection ++ [scope.source]
  | _ => []

/-- The sources of the tables in the expressions of a list. -/
def sourcesOfItems : List Expr → List SourceId
  | [] => []
  | item :: items => item.sources ++ sourcesOfItems items

end

end Expr

/-- The nested query with the sources in it replaced. -/
def Select.mapSources (f : SourceId → SourceId) (select : Select) : Select :=
  ⟨select.scope.mapSource f, select.projection.map (Expr.mapSources f)⟩

/-- The outcome of flattening with the sources in it replaced. -/
def Flattened.mapSources (f : SourceId → SourceId) (result : Flattened) :
    Flattened :=
  ⟨result.subquery.mapSources f,
    result.outerProjection.map (Expr.mapSources f)⟩

/-- The decision about an entry whose sources have been replaced. -/
def Decision.mapSources (f : SourceId → SourceId) : Decision → Decision
  | .lift entry => .lift (entry.mapSources f)
  | .inline entry => .inline (entry.mapSources f)
  | .name entry aliasName => .name (entry.mapSources f) aliasName

/-- The record of what was done with expressions whose sources have been
replaced. -/
def LogRecord.mapSources (f : SourceId → SourceId) : LogRecord → LogRecord
  | .lifting expr scopeAlias => .lifting (expr.mapSources f) scopeAlias
  | .notLiftable expr => .notLiftable (expr.mapSources f)
  | .inlining expr scopeAlias => .inlining (expr.mapSources f) scopeAlias
  | .aliasing expr name scopeAlias =>
      .aliasing (expr.mapSources f) name scopeAlias
  | .loaded config => .loaded config

/-! ## Expressions -/

@[simp] theorem Table.aliasName_mapSource (f : SourceId → SourceId)
    (table : Table) : (table.mapSource f).aliasName = table.aliasName := rfl

@[simp] theorem Table.render_mapSource (f : SourceId → SourceId)
    (table : Table) : (table.mapSource f).render = table.render := rfl

namespace Expr

variable (f : SourceId → SourceId)

theorem mapSourcesItems_eq_map (items : List Expr) :
    mapSourcesItems f items = items.map (mapSources f) := by
  induction items with
  | nil => rfl
  | cons item items inductionHypothesis =>
      simp [mapSourcesItems, inductionHypothesis]

theorem sourcesOfItems_eq_flatMap (items : List Expr) :
    sourcesOfItems items = items.flatMap sources := by
  induction items with
  | nil => rfl
  | cons item items inductionHypothesis =>
      simp [sourcesOfItems, inductionHypothesis]

/-- Every source is replaced, and no other comes in. -/
theorem sources_mapSources (expr : Expr) :
    (expr.mapSources f).sources = expr.sources.map f := by
  induction expr using induction_on_children with
  | step expr inductionHypothesis =>
      cases expr with
      | select scope projection =>
          have items : (projection.map (mapSources f)).flatMap sources =
              (projection.flatMap sources).map f := by
            rw [List.flatMap_map, List.map_flatMap]
            exact List.flatMap_congr inductionHypothesis
          simp only [mapSources, sources, mapSourcesItems_eq_map,
            sourcesOfItems_eq_flatMap, items, List.map_append]
          rfl
      | aliased inner _ | nullable inner | convert inner _ =>
          exact inductionHypothesis inner (List.mem_singleton_self inner)
      | reference inner scope =>
          have seen :=
            inductionHypothesis inner (List.mem_singleton_self inner)
          simp only [mapSources, sources, seen, List.map_append]
          rfl
      | column _ | table _ | constant _ | parameter _ | other _ => rfl

/-- The text of an expression tells nothing of its sources. -/
@[simp] theorem render_mapSources (expr : Expr) :
    (expr.mapSources f).render = expr.render := by
  induction expr using induction_on_children with
  | step expr inductionHypothesis =>
      cases expr with
      | select scope projection =>
          have items : (projection.map (mapSources f)).map render =
              projection.map render := by
            rw [List.map_map]
            exact List.map_congr_left inductionHypothesis
          simp only [mapSources, render, mapSourcesItems_eq_map,
            renderItems_eq_map, items, Table.aliasName_mapSource]
      | aliased inner _ | reference inner _ | nullable inner
      | convert inner _ =>
          have inside :=
            inductionHypothesis inner (List.mem_singleton_self inner)
          simp only [mapSources, render, inside, Table.aliasName_mapSource]
      | column _ | table _ | constant _ | parameter _ | other _ => rfl

@[simp] theorem isReferenceable_mapSources (expr : Expr) :
    (expr.mapSources f).isReferenceable = expr.isReferenceable := by
  cases expr <;> rfl

@[simp] theorem isAtomic_mapSources (expr : Expr) :
    (expr.mapSources f).isAtomic = expr.isAtomic := by
  cases expr <;> rfl

@[simp] theorem withoutConvert_mapSources (expr : Expr) :
    (expr.mapSources f).withoutConvert = expr.withoutConvert.mapSources f := by
  cases expr <;> rfl

@[simp] theorem isSimple_mapSources (expr : Expr) :
    (expr.mapSources f).isSimple = expr.isSimple := by
  simp [isSimple]

@[simp] theorem referenceDepth_mapSources (expr : Expr) :
    (expr.mapSources f).referenceDepth = expr.referenceDepth := by
  fun_induction referenceDepth expr with
  | case1 inner scope inductionHypothesis =>
      simp [mapSources, referenceDepth, inductionHypothesis]
  | case2 expr other => cases expr <;> simp_all [mapSources, referenceDepth]

@[simp] theorem addressedName_mapSources (expr : Expr) :
    (expr.mapSources f).addressedName = expr.addressedName := by
  fun_induction addressedName expr with
  | case1 exposed => rfl
  | case2 inner aliasName => rfl
  | case3 inner scope inductionHypothesis => exact inductionHypothesis
  | case4 expr => cases expr <;> simp_all [mapSources, addressedName]

@[simp] theorem outerName?_mapSources (expr : Expr) :
    (expr.mapSources f).outerName? = expr.outerName? := by
  simp [outerName?]

theorem property?_mapSources (expr : Expr) :
    (expr.mapSources f).property? = expr.property? := by
  fun_induction property? expr with
  | case1 exposed => rfl
  | case2 inner aliasName inductionHypothesis => exact inductionHypothesis
  | case3 inner scope inductionHypothesis => exact inductionHypothesis
  | case4 expr => cases expr <;> simp_all [mapSources, property?]

/-- The source of an expression is replaced with all others in it. -/
theorem source?_mapSources (expr : Expr) :
    (expr.mapSources f).source? = expr.source?.map f := by
  fun_induction source? expr with
  | case1 exposed => rfl
  | case2 inner aliasName inductionHypothesis => exact inductionHypothesis
  | case3 inner scope => rfl
  | case4 expr => cases expr <;> simp_all [mapSources, source?]

@[simp] theorem liftRecord_mapSources (expr : Expr) (scope : Table) :
    (expr.mapSources f).liftRecord (scope.mapSource f) =
      (expr.liftRecord scope).mapSources f := by
  rw [liftRecord, liftRecord, isReferenceable_mapSources]
  split
  · rfl
  · rfl

end Expr

/-- What is written shows the text of an expression, which does not depend on the
sources. -/
@[simp] theorem LogRecord.render_mapSources (f : SourceId → SourceId)
    (record : LogRecord) : (record.mapSources f).render = record.render := by
  have sameLevel : (record.mapSources f).level = record.level := by
    cases record <;> rfl
  have sameText : (record.mapSources f).text = record.text := by
    delta text
    cases record <;> simp only [mapSources, Expr.render_mapSources]
  rw [render, sameLevel, sameText, render]

/-! ## Decisions -/

namespace Decision

variable (f : SourceId → SourceId) (decision : Decision)

@[simp] theorem inner_mapSources :
    (decision.mapSources f).inner = decision.inner.mapSources f := by
  cases decision <;> rfl

@[simp] theorem outer_mapSources (scope : Table) :
    (decision.mapSources f).outer (scope.mapSource f) =
      (decision.outer scope).mapSources f := by
  cases decision <;> rfl

@[simp] theorem depth_mapSources :
    (decision.mapSources f).depth = decision.depth := by
  cases decision with
  | lift entry => simp [mapSources, depth]
  | inline entry | name entry aliasName => rfl

@[simp] theorem within_mapSources (limit : UInt32) :
    (decision.mapSources f).within limit = decision.within limit := by
  simp [within]

@[simp] theorem aliasName?_mapSources :
    (decision.mapSources f).aliasName? = decision.aliasName? := by
  cases decision <;> rfl

@[simp] theorem records_mapSources (scope : Table) :
    (decision.mapSources f).records (scope.mapSource f) =
      (decision.records scope).map (LogRecord.mapSources f) := by
  cases decision with
  | lift entry | inline entry | name entry aliasName =>
      simp [mapSources, records, LogRecord.mapSources]

/-- The kind of an entry and the names that are taken settle the decision, and
neither depends on the sources. -/
theorem about_mapSources (stem : String) (taken : List String) (entry : Expr) :
    about stem taken (entry.mapSources f) =
      (about stem taken entry).mapSources f := by
  unfold about
  simp only [Expr.isReferenceable_mapSources, Expr.isSimple_mapSources]
  split
  · rfl
  · split
    · rfl
    · rfl

end Decision

/-- With other sources in the entries the decisions are the same, with these
sources in them: the same names are taken and the same aliases generated. -/
theorem decideEntries_mapSources (f : SourceId → SourceId) (stem : String)
    (taken : List String) (entries : List Expr) :
    decideEntries stem taken (entries.map (Expr.mapSources f)) =
      (decideEntries stem taken entries).map (Decision.mapSources f) := by
  induction entries generalizing taken with
  | nil => rfl
  | cons entry entries inductionHypothesis =>
      rw [List.map_cons, decideEntries_cons, decideEntries_cons, List.map_cons,
        Decision.about_mapSources, Decision.aliasName?_mapSources,
        inductionHypothesis]

/-- Items that pass a test as often as their images do are taken as far as
these. -/
theorem upToFirstFailing_map {item image : Type} {test : item → Bool}
    {testImage : image → Bool} {make : item → image}
    (same : ∀ tried, testImage (make tried) = test tried) (items : List item) :
    upToFirstFailing testImage (items.map make) =
      (upToFirstFailing test items).map make := by
  induction items with
  | nil => rfl
  | cons head rest inductionHypothesis =>
      rw [List.map_cons, upToFirstFailing, upToFirstFailing, same]
      split
      · rw [inductionHypothesis, List.map_cons]
      · rfl

/-! ## Flattening -/

namespace Select

variable (f : SourceId → SourceId) (config : Config) (select : Select)

@[simp] theorem outerNames_mapSources :
    (select.mapSources f).outerNames = select.outerNames := by
  simp only [outerNames, mapSources, List.filterMap_map]
  exact List.filterMap_congr fun entry _ => Expr.outerName?_mapSources f entry

theorem decisions_mapSources (stem : String) :
    (select.mapSources f).decisions stem =
      (select.decisions stem).map (Decision.mapSources f) := by
  rw [decisions, outerNames_mapSources, decisions]
  exact decideEntries_mapSources f stem select.outerNames select.projection

theorem carryOut_mapSources (scope : Table) (decisions : List Decision) :
    carryOut (scope.mapSource f) (decisions.map (Decision.mapSources f)) =
      (carryOut scope decisions).mapSources f := by
  simp [carryOut, Flattened.mapSources, mapSources]

/-- Flattening a query with other sources gives the same outcome with these sources,
or the same fault. -/
theorem flatten_mapSources :
    (select.mapSources f).flatten config =
      (select.flatten config).map (Flattened.mapSources f) := by
  have sameTest :
      (fun decision => !decision.within config.maxLiftDepth) ∘
          Decision.mapSources f =
        fun decision => !decision.within config.maxLiftDepth :=
    funext fun decision =>
      congrArg not (decision.within_mapSources f config.maxLiftDepth)
  have search :
      ((select.mapSources f).decisions config.aliasPrefix).find?
          (fun decision => !decision.within config.maxLiftDepth) =
        ((select.decisions config.aliasPrefix).find?
          (fun decision => !decision.within config.maxLiftDepth)).map
            (Decision.mapSources f) := by
    rw [decisions_mapSources, List.find?_map, sameTest]
  have noEntries : (select.mapSources f).projection.isEmpty =
      select.projection.isEmpty := by
    simp [mapSources]
  rw [flatten, flatten, noEntries]
  split
  · rfl
  · simp only [search]
    cases (select.decisions config.aliasPrefix).find?
        (fun decision => !decision.within config.maxLiftDepth) with
    | some deep => simp [mapSources, Except.map]
    | none =>
        simp only [Option.map_none, Except.map, decisions_mapSources]
        exact congrArg Except.ok (carryOut_mapSources f _ _)

/-- A run over a query with other sources makes the same records, with these
sources. -/
theorem flattenRecords_mapSources :
    (select.mapSources f).flattenRecords config =
      (select.flattenRecords config).map (LogRecord.mapSources f) := by
  rw [flattenRecords, flattenRecords, decisions_mapSources,
    upToFirstFailing_map fun decision =>
      decision.within_mapSources f config.maxLiftDepth,
    List.flatMap_map, List.map_flatMap]
  exact List.flatMap_congr fun decision _ =>
    decision.records_mapSources f select.scope

end Select

/-- Flattening does not depend on the sources.  Let any function replace all
sources in a nested query, whether or not it keeps them apart.  Flattening then
succeeds as before, with the result in which the sources are replaced in the same
way, or it fails as before; and it writes what it wrote.  The source of an
expression is replaced too, while its kind, its depth, its property and its text
stay as they are. -/
theorem flatten_ignores_sources (f : SourceId → SourceId) (config : Config)
    (select : Select) :
    (∀ result, select.flatten config = .ok result →
      (select.mapSources f).flatten config = .ok (result.mapSources f)) ∧
    (∀ fault, select.flatten config = .error fault →
      (select.mapSources f).flatten config = .error fault) ∧
    ((select.mapSources f).flattenRecords config).map LogRecord.render =
      (select.flattenRecords config).map LogRecord.render ∧
    ∀ expr : Expr,
      (expr.mapSources f).sources = expr.sources.map f ∧
      (expr.mapSources f).source? = expr.source?.map f ∧
      (expr.mapSources f).isSimple = expr.isSimple ∧
      (expr.mapSources f).referenceDepth = expr.referenceDepth ∧
      (expr.mapSources f).property? = expr.property? ∧
      (expr.mapSources f).render = expr.render := by
  refine ⟨?_, ?_, ?_, ?_⟩
  · intro result flattened
    rw [Select.flatten_mapSources, flattened]
    rfl
  · intro fault failed
    rw [Select.flatten_mapSources, failed]
    rfl
  · rw [Select.flattenRecords_mapSources, List.map_map]
    exact List.map_congr_left fun record _ => record.render_mapSources f
  · intro expr
    exact ⟨expr.sources_mapSources f, expr.source?_mapSources f,
      expr.isSimple_mapSources f, expr.referenceDepth_mapSources f,
      expr.property?_mapSources f, expr.render_mapSources f⟩

end ScopedQuery
