/-
Module: ScopedQuery.Proofs.Flattening
Purpose: What the decisions of flattening are, entry by entry, and when they can
  be carried out.
Trusted boundary: none
Main exports:
  Expr.needsAlias, Expr.outerDepth, Decision.entry, Decision.Proper,
  Decision.about, decideEntries_cons, decideEntries_map_entry,
  decideEntries_proper, decideEntries_aliases_apart, Select.flatten_eq,
  Select.flatten_eq_ok_iff, Select.flatten_eq_error_iff
-/
import ScopedQuery.Flattening.Basic
import ScopedQuery.Proofs.AliasName

namespace ScopedQuery

/-!
A nested query, its rewritten form and the list for the enclosing query are
three views of one list of decisions.  Statements about positions are therefore
statements about decisions, and a decision is settled by its entry but for the
alias that it may generate.
-/

/-! ## Entries -/

namespace Expr

@[simp] theorem isReferenceable_aliased (inner : Expr) (aliasName : String) :
    (Expr.aliased inner aliasName).isReferenceable = true := rfl

@[simp] theorem isReferenceable_reference (inner : Expr) (scope : Table) :
    (Expr.reference inner scope).isReferenceable = true := rfl

/-- The entry cannot be referenced and is too complex to be repeated. -/
def needsAlias (entry : Expr) : Bool :=
  !entry.isReferenceable && !entry.isSimple

/-- The number of references that flattening stacks for an entry. -/
def outerDepth (entry : Expr) : Nat :=
  if entry.isReferenceable then entry.referenceDepth + 1
  else if entry.isSimple then 0
  else 1

/-- What can be referenced is lifted. -/
theorem lift?_of_referenceable {expr : Expr}
    (named : expr.isReferenceable = true) (scope : Table) :
    expr.lift? scope = some (.reference expr scope) := by
  simp [lift?, named]

/-- What cannot be referenced is not lifted. -/
theorem lift?_of_not_referenceable {expr : Expr}
    (unnamed : expr.isReferenceable = false) (scope : Table) :
    expr.lift? scope = none := by
  simp [lift?, unnamed]

/-- Only a reference has references stacked at its top. -/
theorem referenceDepth_eq_zero_of_not_referenceable {entry : Expr}
    (unnamed : entry.isReferenceable = false) : entry.referenceDepth = 0 := by
  cases entry with
  | reference inner scope => cases unnamed
  | _ => rfl

end Expr

/-! ## Decisions -/

namespace Decision

/-- The entry that a decision is about. -/
def entry : Decision → Expr
  | .lift entry => entry
  | .inline entry => entry
  | .name entry _ => entry

/-- The alias that a decision generates. -/
def aliasName? : Decision → Option String
  | .name _ aliasName => some aliasName
  | _ => none

/-- The entry is of the kind for which the decision is meant. -/
def Proper : Decision → Prop
  | .lift entry => entry.isReferenceable = true
  | .inline entry => entry.isReferenceable = false ∧ entry.isSimple = true
  | .name entry _ => entry.isReferenceable = false ∧ entry.isSimple = false

/-- The entry tells how many references a decision stacks. -/
theorem Proper.depth_eq {decision : Decision} (proper : decision.Proper) :
    decision.depth = decision.entry.outerDepth := by
  cases decision with
  | lift entry =>
      change entry.isReferenceable = true at proper
      simp [depth, Decision.entry, Expr.outerDepth, proper]
  | inline entry =>
      obtain ⟨unnamed, simple⟩ := proper
      simp [depth, Decision.entry, Expr.outerDepth, unnamed, simple]
  | name entry aliasName =>
      obtain ⟨unnamed, complex⟩ := proper
      simp [depth, Decision.entry, Expr.outerDepth, unnamed, complex]

/-- The decision about an entry, given the names that are taken. -/
def about (stem : String) (taken : List String) (entry : Expr) : Decision :=
  if entry.isReferenceable then .lift entry
  else if entry.isSimple then .inline entry
  else .name entry (AliasName.fresh stem taken)

section About

variable (stem : String) (taken : List String) (entry : Expr)

@[simp] theorem entry_about : (about stem taken entry).entry = entry := by
  unfold about
  split
  · rfl
  · split <;> rfl

/-- The decision about an entry suits it. -/
theorem about_proper : (about stem taken entry).Proper := by
  cases named : entry.isReferenceable with
  | true => simp [about, Proper, named]
  | false =>
      cases simple : entry.isSimple with
      | true => simp [about, Proper, named, simple]
      | false => simp [about, Proper, named, simple]

/-- An alias is generated for the entries that need one, and it is fresh. -/
theorem aliasName?_about :
    (about stem taken entry).aliasName? =
      if entry.needsAlias then some (AliasName.fresh stem taken) else none := by
  cases named : entry.isReferenceable with
  | true => simp [about, aliasName?, Expr.needsAlias, named]
  | false =>
      cases simple : entry.isSimple with
      | true => simp [about, aliasName?, Expr.needsAlias, named, simple]
      | false => simp [about, aliasName?, Expr.needsAlias, named, simple]

/-- An entry that needs no alias is lifted or inlined, whatever names are
taken. -/
theorem about_of_not_needsAlias {entry : Expr}
    (settled : entry.needsAlias = false) :
    about stem taken entry =
      if entry.isReferenceable then .lift entry else .inline entry := by
  cases named : entry.isReferenceable with
  | true => simp [about, named]
  | false =>
      have simple : entry.isSimple = true := by
        simpa [Expr.needsAlias, named] using settled
      simp [about, named, simple]

end About

end Decision

/-- The entries are decided one by one, and a generated alias is taken for those
that follow. -/
theorem decideEntries_cons (stem : String) (taken : List String)
    (entry : Expr) (entries : List Expr) :
    decideEntries stem taken (entry :: entries) =
      .about stem taken entry ::
        decideEntries stem
          ((Decision.about stem taken entry).aliasName?.toList ++ taken)
          entries := by
  cases named : entry.isReferenceable with
  | true => simp [decideEntries, Decision.about, named, Decision.aliasName?]
  | false =>
      cases simple : entry.isSimple with
      | true =>
          simp [decideEntries, Decision.about, named, simple,
            Decision.aliasName?]
      | false =>
          simp [decideEntries, Decision.about, named, simple,
            Decision.aliasName?]

/-- There is one decision for every entry, in the order of the entries. -/
@[simp] theorem decideEntries_map_entry (stem : String) (taken : List String)
    (entries : List Expr) :
    (decideEntries stem taken entries).map Decision.entry = entries := by
  induction entries generalizing taken with
  | nil => rfl
  | cons entry entries inductionHypothesis =>
      simp [decideEntries_cons, inductionHypothesis]

/-- Every decision suits its entry. -/
theorem decideEntries_proper {stem : String} {taken : List String}
    {entries : List Expr} :
    ∀ decision ∈ decideEntries stem taken entries, decision.Proper := by
  induction entries generalizing taken with
  | nil => simp [decideEntries]
  | cons entry entries inductionHypothesis =>
      rw [decideEntries_cons, List.forall_mem_cons]
      exact ⟨Decision.about_proper stem taken entry, inductionHypothesis⟩

/-- A generated alias is a fresh name for the names that were taken beforehand and
the aliases generated since. -/
theorem decideEntries_alias_fresh {stem : String} {taken : List String}
    {entries : List Expr} {decision : Decision} {aliasName : String}
    (member : decision ∈ decideEntries stem taken entries)
    (generated : decision.aliasName? = some aliasName) :
    ∃ since, aliasName = AliasName.fresh stem (since ++ taken) := by
  induction entries generalizing taken with
  | nil => cases member
  | cons entry entries inductionHypothesis =>
      rw [decideEntries_cons] at member
      rcases List.mem_cons.mp member with rfl | later
      · rw [Decision.aliasName?_about] at generated
        split at generated
        · exact ⟨[], (Option.some.inj generated).symm⟩
        · cases generated
      · obtain ⟨since, fresh⟩ := inductionHypothesis later
        rw [← List.append_assoc] at fresh
        exact ⟨_, fresh⟩

/-- No generated alias is among the names that were taken beforehand. -/
theorem decideEntries_alias_not_mem {stem : String} {taken : List String}
    {entries : List Expr} {decision : Decision} {aliasName : String}
    (member : decision ∈ decideEntries stem taken entries)
    (generated : decision.aliasName? = some aliasName) :
    aliasName ∉ taken := by
  obtain ⟨since, rfl⟩ := decideEntries_alias_fresh member generated
  intro before
  exact AliasName.fresh_not_mem stem _ (List.mem_append_right since before)

/-- Every generated alias is the stem with a number. -/
theorem decideEntries_alias_numbered {stem : String} {taken : List String}
    {entries : List Expr} {decision : Decision} {aliasName : String}
    (member : decision ∈ decideEntries stem taken entries)
    (generated : decision.aliasName? = some aliasName) :
    ∃ number, aliasName = AliasName.numbered stem number := by
  obtain ⟨since, rfl⟩ := decideEntries_alias_fresh member generated
  obtain ⟨number, -, numbered, -⟩ :=
    AliasName.fresh_eq_first_free stem (since ++ taken)
  exact ⟨number, numbered⟩

/-- The aliases that a run generates differ from one another: each is taken
before the next is chosen. -/
theorem decideEntries_aliases_apart (stem : String) (taken : List String)
    (entries : List Expr) :
    (decideEntries stem taken entries).Pairwise fun earlier later =>
      ∀ aliasName, earlier.aliasName? = some aliasName →
        later.aliasName? ≠ some aliasName := by
  induction entries generalizing taken with
  | nil => exact .nil
  | cons entry entries inductionHypothesis =>
      rw [decideEntries_cons]
      refine .cons ?_ (inductionHypothesis _)
      intro later member aliasName generated same
      apply decideEntries_alias_not_mem member same
      simp [generated]

/-- Where no entry needs an alias, the decisions do not depend on names. -/
theorem decideEntries_of_no_alias {stem : String} {taken : List String}
    {entries : List Expr}
    (settled : ∀ entry ∈ entries, entry.needsAlias = false) :
    decideEntries stem taken entries = entries.map fun entry =>
      if entry.isReferenceable then .lift entry else .inline entry := by
  induction entries generalizing taken with
  | nil => rfl
  | cons entry entries inductionHypothesis =>
      obtain ⟨first, rest⟩ := List.forall_mem_cons.mp settled
      rw [decideEntries_cons, inductionHypothesis rest,
        Decision.about_of_not_needsAlias stem taken first, List.map_cons]

/-! ## Flattening -/

/-- The items up to the first that fails a test are items of the list. -/
theorem mem_of_mem_upToFirstFailing {item : Type} {test : item → Bool}
    {found : item} {items : List item}
    (member : found ∈ upToFirstFailing test items) : found ∈ items := by
  induction items with
  | nil => cases member
  | cons head rest inductionHypothesis =>
      rw [upToFirstFailing] at member
      split at member
      · rcases List.mem_cons.mp member with rfl | later
        · exact List.mem_cons_self
        · exact List.mem_cons_of_mem _ (inductionHypothesis later)
      · rw [List.mem_singleton.mp member]
        exact List.mem_cons_self

namespace Select

variable {config : Config} {select : Select} {result : Flattened}

/-- The decisions for a nested query are about its entries. -/
@[simp] theorem decisions_map_entry (stem : String) (select : Select) :
    (select.decisions stem).map Decision.entry = select.projection :=
  decideEntries_map_entry stem select.outerNames select.projection

@[simp] theorem length_decisions (stem : String) (select : Select) :
    (select.decisions stem).length = select.projection.length := by
  rw [← decisions_map_entry stem select, List.length_map]

/-- Every decision for a nested query suits its entry. -/
theorem decisions_proper {stem : String} :
    ∀ decision ∈ select.decisions stem, decision.Proper :=
  decideEntries_proper

/-- A decision is about an entry of the nested query. -/
theorem entry_mem {stem : String} {decision : Decision}
    (member : decision ∈ select.decisions stem) :
    decision.entry ∈ select.projection := by
  rw [← decisions_map_entry stem select]
  exact List.mem_map_of_mem member

/-- The entry at a position is settled by the decision there. -/
theorem decision_at {position : Nat} {entry : Expr} (stem : String)
    (found : select.projection[position]? = some entry) :
    ∃ decision, (select.decisions stem)[position]? = some decision ∧
      decision.Proper ∧ decision.entry = entry := by
  rw [← decisions_map_entry stem select, List.getElem?_map,
    Option.map_eq_some_iff] at found
  obtain ⟨decision, decided, same⟩ := found
  have member := List.mem_of_getElem? decided
  exact ⟨decision, decided, decisions_proper decision member, same⟩

/-- The depths of the decisions are those of the entries, so they depend on
neither the stem nor the names in use. -/
theorem decisions_map_depth (stem : String) (select : Select) :
    (select.decisions stem).map Decision.depth =
      select.projection.map Expr.outerDepth := by
  conv => rhs; rw [← decisions_map_entry stem select, List.map_map]
  exact List.map_congr_left fun decision member =>
    (decisions_proper decision member).depth_eq

/-- Flattening fails on an empty projection, and at the first entry that stacks
more references than the limit allows; otherwise it carries out the
decisions. -/
theorem flatten_eq (config : Config) (select : Select) :
    select.flatten config =
      if select.projection = [] then
        .error (.emptyProjection select.scope.aliasName)
      else
        match (select.projection.map Expr.outerDepth).find? fun depth =>
          config.maxLiftDepth.toNat < depth with
        | some depth =>
            .error (.liftDepthExceeded select.scope.aliasName depth
              config.maxLiftDepth)
        | none =>
            .ok (carryOut select.scope
              (select.decisions config.aliasPrefix)) := by
  have search :
      ((select.projection.map Expr.outerDepth).find? fun depth =>
        config.maxLiftDepth.toNat < depth) =
      ((select.decisions config.aliasPrefix).find? fun decision =>
        !decision.within config.maxLiftDepth).map Decision.depth := by
    rw [← decisions_map_depth config.aliasPrefix, List.find?_map]
    congr 2
    funext decision
    simp only [Function.comp_apply, Decision.within, ← decide_not, Nat.not_le]
  rw [search, flatten]
  simp only [List.isEmpty_iff]
  split
  · rfl
  · cases (select.decisions config.aliasPrefix).find? fun decision =>
      !decision.within config.maxLiftDepth <;> rfl

/-- Flattening succeeds exactly when there are entries and none of them stacks
more references than the limit allows. -/
theorem flatten_eq_ok_iff :
    select.flatten config = .ok result ↔
      select.projection ≠ [] ∧
      (∀ entry ∈ select.projection,
        entry.outerDepth ≤ config.maxLiftDepth.toNat) ∧
      result = carryOut select.scope
        (select.decisions config.aliasPrefix) := by
  rw [flatten_eq]
  by_cases empty : select.projection = []
  · simp [empty]
  · rw [if_neg empty]
    cases search : (select.projection.map Expr.outerDepth).find? fun depth =>
        config.maxLiftDepth.toNat < depth with
    | some depth =>
        have member := List.mem_of_find?_eq_some search
        have exceeds := List.find?_some search
        obtain ⟨entry, inside, rfl⟩ := List.mem_map.mp member
        simp only [decide_eq_true_eq] at exceeds
        simp only [reduceCtorEq, false_iff, not_and]
        intro _ within
        exact absurd (within entry inside) (Nat.not_le_of_lt exceeds)
    | none =>
        rw [List.find?_eq_none] at search
        have within : ∀ entry ∈ select.projection,
            entry.outerDepth ≤ config.maxLiftDepth.toNat := by
          intro entry inside
          simpa using search _ (List.mem_map_of_mem inside)
        simp only [Except.ok.injEq]
        constructor
        · rintro rfl
          exact ⟨empty, within, rfl⟩
        · rintro ⟨-, -, rfl⟩
          rfl

/-- Flattening fails exactly when there are no entries, or at the first entry that
stacks more references than the limit allows. -/
theorem flatten_eq_error_iff {fault : FlattenError} :
    select.flatten config = .error fault ↔
      (select.projection = [] ∧
        fault = .emptyProjection select.scope.aliasName) ∨
      ∃ before entry after,
        select.projection = before ++ entry :: after ∧
        config.maxLiftDepth.toNat < entry.outerDepth ∧
        (∀ earlier ∈ before,
          earlier.outerDepth ≤ config.maxLiftDepth.toNat) ∧
        fault = .liftDepthExceeded select.scope.aliasName entry.outerDepth
          config.maxLiftDepth := by
  rw [flatten_eq, List.find?_map]
  by_cases empty : select.projection = []
  · simp [empty, eq_comm]
  · simp only [empty, if_false, false_and, false_or]
    constructor
    · intro failed
      cases search : select.projection.find? ((fun depth =>
          decide (config.maxLiftDepth.toNat < depth)) ∘ Expr.outerDepth) with
      | none =>
          rw [search] at failed
          cases failed
      | some entry =>
          rw [search] at failed
          obtain ⟨exceeds, before, after, split, earlier⟩ :=
            List.find?_eq_some_iff_append.mp search
          cases failed
          exact ⟨before, entry, after, split, by simpa using exceeds,
            by simpa using earlier, rfl⟩
    · rintro ⟨before, entry, after, split, exceeds, earlier, rfl⟩
      have search : select.projection.find? ((fun depth =>
          decide (config.maxLiftDepth.toNat < depth)) ∘ Expr.outerDepth) =
            some entry :=
        List.find?_eq_some_iff_append.mpr
          ⟨by simpa using exceeds, before, after, split, by simpa using earlier⟩
      rw [search, Option.map_some]

/-- A result carries out the decisions. -/
theorem eq_carryOut_of_flatten (flattened : select.flatten config = .ok result) :
    result = carryOut select.scope (select.decisions config.aliasPrefix) :=
  (flatten_eq_ok_iff.mp flattened).2.2

end Select

end ScopedQuery
