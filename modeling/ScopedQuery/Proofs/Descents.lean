/-
Module: ScopedQuery.Proofs.Descents
Purpose: On which expressions the descents to a column, a property and a source
  answer, and how their answers agree.
Trusted boundary: none
Main exports:
  Wrapper, Expr.wrappedIn, Descends, Descends.eq_some_iff,
  Expr.wrappedIn_column_inj, Expr.column?_eq_some_iff,
  Expr.property?_eq_some_iff, Expr.source?_eq_some_iff,
  resolvers_answer_on_chains
-/
import ScopedQuery.Expr.Resolution
import ScopedQuery.Proofs.Parts

namespace ScopedQuery

/-!
A node with one operand wraps it.  Each descent goes through the wrappers that
it crosses, as long as there are any, and answers, or not, at the node where it
stops.  So it answers exactly on stacks of wrappers that it crosses over a node
at which it has an answer.  A stack over a column can be taken apart in one way
only.  Two descents that answer on such a stack have therefore crossed the same
wrappers, and these are of a kind that both of them cross.
-/

/-- A node around one operand, without the operand. -/
inductive Wrapper where
  | aliased (aliasName : String)
  | reference (scope : Table)
  | nullable
  | convert (targetType : String)
deriving DecidableEq

namespace Wrapper

/-- The wrapper around an operand. -/
def around : Wrapper → Expr → Expr
  | .aliased aliasName, operand => .aliased operand aliasName
  | .reference scope, operand => .reference operand scope
  | .nullable, operand => .nullable operand
  | .convert targetType, operand => .convert operand targetType

/-- The wrapper lets a column be seen through it. -/
def showsColumn : Wrapper → Bool
  | .aliased _ => true
  | .nullable => true
  | _ => false

/-- The wrapper lets a property be seen through it. -/
def showsProperty : Wrapper → Bool
  | .aliased _ => true
  | .reference _ => true
  | _ => false

/-- The wrapper lets a source be seen through it. -/
def showsSource : Wrapper → Bool
  | .aliased _ => true
  | _ => false

/-- A wrapper around an operand determines both. -/
theorem around_inj {first second : Wrapper} {left right : Expr} :
    first.around left = second.around right ↔ first = second ∧ left = right := by
  cases first <;> cases second <;> simp [around, and_comm]

/-- A wrapper around an operand is not a column. -/
theorem around_ne_column (wrapper : Wrapper) (operand : Expr)
    (column : Column) : wrapper.around operand ≠ .column column := by
  cases wrapper <;> simp [around]

/-- The operand is a part of the node. -/
theorem operand_mem_children (wrapper : Wrapper) (operand : Expr) :
    operand ∈ (wrapper.around operand).children := by
  cases wrapper <;> exact List.mem_singleton_self operand

end Wrapper

/-- A core in a stack of wrappers, the outermost first. -/
def Expr.wrappedIn (core : Expr) (wrappers : List Wrapper) : Expr :=
  wrappers.foldr Wrapper.around core

namespace Expr

@[simp] theorem wrappedIn_nil (core : Expr) : core.wrappedIn [] = core := rfl

@[simp] theorem wrappedIn_cons (core : Expr) (wrapper : Wrapper)
    (wrappers : List Wrapper) :
    core.wrappedIn (wrapper :: wrappers) =
      wrapper.around (core.wrappedIn wrappers) := rfl

/-- There is one way to take a stack over a column apart. -/
theorem wrappedIn_column_inj {left right : List Wrapper}
    {first second : Column} :
    (Expr.column first).wrappedIn left = (Expr.column second).wrappedIn right ↔
      left = right ∧ first = second := by
  induction left generalizing right with
  | nil =>
      cases right with
      | nil => simp
      | cons wrapper wrappers =>
          simpa using (wrapper.around_ne_column _ first).symm
  | cons wrapper wrappers inductionHypothesis =>
      cases right with
      | nil => simpa using wrapper.around_ne_column _ second
      | cons other others =>
          simp [Wrapper.around_inj, inductionHypothesis, and_assoc]

end Expr

/-! ## Descents -/

/-- A partial function on expressions goes down through the wrappers that show
what it looks for, and where it stops it answers as `answer?` does. -/
structure Descends {found : Type} (shows : Wrapper → Bool)
    (answer? : Expr → Option found) (resolve? : Expr → Option found) : Prop where
  crossed : ∀ wrapper operand, shows wrapper = true →
    resolve? (wrapper.around operand) = resolve? operand
  stopped : ∀ expr,
    (∀ wrapper operand, shows wrapper = true →
      expr ≠ wrapper.around operand) →
    resolve? expr = answer? expr
  silent : ∀ wrapper operand, shows wrapper = true →
    answer? (wrapper.around operand) = none

namespace Descends

variable {found : Type} {shows : Wrapper → Bool}
  {answer? resolve? : Expr → Option found}

/-- A descent goes through a whole stack of wrappers that it crosses. -/
theorem wrappedIn (descends : Descends shows answer? resolve?)
    {wrappers : List Wrapper} (core : Expr)
    (shown : ∀ wrapper ∈ wrappers, shows wrapper = true) :
    resolve? (core.wrappedIn wrappers) = resolve? core := by
  induction wrappers with
  | nil => rfl
  | cons wrapper wrappers inductionHypothesis =>
      obtain ⟨first, rest⟩ := List.forall_mem_cons.mp shown
      rw [Expr.wrappedIn_cons, descends.crossed _ _ first]
      exact inductionHypothesis rest

/-- A descent answers exactly on stacks of wrappers that it crosses over a node
with that answer. -/
theorem eq_some_iff (descends : Descends shows answer? resolve?) {expr : Expr}
    {value : found} :
    resolve? expr = some value ↔
      ∃ wrappers core, (∀ wrapper ∈ wrappers, shows wrapper = true) ∧
        expr = core.wrappedIn wrappers ∧ answer? core = some value := by
  constructor
  · intro resolved
    induction expr using Expr.induction_on_children with
    | step expr inductionHypothesis =>
        by_cases wraps : ∃ wrapper operand, shows wrapper = true ∧
            expr = wrapper.around operand
        · obtain ⟨wrapper, operand, shown, rfl⟩ := wraps
          rw [descends.crossed wrapper operand shown] at resolved
          obtain ⟨wrappers, core, allShown, rfl, answered⟩ :=
            inductionHypothesis operand
              (wrapper.operand_mem_children operand) resolved
          exact ⟨wrapper :: wrappers, core,
            List.forall_mem_cons.mpr ⟨shown, allShown⟩, rfl, answered⟩
        · have bare : ∀ wrapper operand, shows wrapper = true →
              expr ≠ wrapper.around operand := by
            intro wrapper operand shown same
            exact wraps ⟨wrapper, operand, shown, same⟩
          rw [descends.stopped expr bare] at resolved
          exact ⟨[], expr, by simp, rfl, resolved⟩
  · intro stack
    rcases stack with ⟨wrappers, core, shown, rfl, answered⟩
    have bare : ∀ wrapper operand, shows wrapper = true →
        core ≠ wrapper.around operand := by
      intro wrapper operand shown same
      rw [same, descends.silent wrapper operand shown] at answered
      cases answered
    rw [descends.wrappedIn core shown, descends.stopped core bare, answered]

end Descends

/-! ## The three descents -/

namespace Expr

/-- The column that a node is. -/
def ownColumn? : Expr → Option Column
  | .column exposed => some exposed
  | _ => none

/-- The property of the column that a node is. -/
def ownProperty? (expr : Expr) : Option Property :=
  expr.ownColumn?.map Column.property

/-- The source of the column that a node is, or of the scope through which it is
seen. -/
def ownSource? : Expr → Option SourceId
  | .column exposed => some exposed.table.source
  | .reference _ scope => some scope.source
  | _ => none

theorem ownColumn?_eq_some_iff {expr : Expr} {column : Column} :
    expr.ownColumn? = some column ↔ expr = .column column := by
  cases expr <;> simp [ownColumn?]

theorem ownProperty?_eq_some_iff {expr : Expr} {property : Property} :
    expr.ownProperty? = some property ↔
      ∃ column, expr = .column column ∧ column.property = property := by
  simp [ownProperty?, ownColumn?_eq_some_iff]

theorem ownSource?_eq_some_iff {expr : Expr} {source : SourceId} :
    expr.ownSource? = some source ↔
      (∃ column, expr = .column column ∧ column.table.source = source) ∨
      ∃ inner scope, expr = .reference inner scope ∧ scope.source = source := by
  cases expr <;> simp [ownSource?, and_assoc]

theorem descends_column? :
    Descends Wrapper.showsColumn ownColumn? column? where
  crossed := by
    intro wrapper operand shown
    cases wrapper with
    | aliased _ | nullable => rfl
    | reference _ | convert _ => cases shown
  stopped := by
    intro expr bare
    cases expr with
    | aliased inner aliasName =>
        exact absurd rfl (bare (.aliased aliasName) inner rfl)
    | nullable operand => exact absurd rfl (bare .nullable operand rfl)
    | _ => rfl
  silent := by
    intro wrapper operand _
    cases wrapper <;> rfl

theorem descends_property? :
    Descends Wrapper.showsProperty ownProperty? property? where
  crossed := by
    intro wrapper operand shown
    cases wrapper with
    | aliased _ | reference _ => rfl
    | nullable | convert _ => cases shown
  stopped := by
    intro expr bare
    cases expr with
    | aliased inner aliasName =>
        exact absurd rfl (bare (.aliased aliasName) inner rfl)
    | reference inner scope =>
        exact absurd rfl (bare (.reference scope) inner rfl)
    | _ => rfl
  silent := by
    intro wrapper operand _
    cases wrapper <;> rfl

theorem descends_source? :
    Descends Wrapper.showsSource ownSource? source? where
  crossed := by
    intro wrapper operand shown
    cases wrapper with
    | aliased _ => rfl
    | reference _ | nullable | convert _ => cases shown
  stopped := by
    intro expr bare
    cases expr with
    | aliased inner aliasName =>
        exact absurd rfl (bare (.aliased aliasName) inner rfl)
    | _ => rfl
  silent := by
    intro wrapper operand shown
    cases wrapper with
    | aliased _ => rfl
    | reference _ | nullable | convert _ => cases shown

variable {expr : Expr} {column : Column} {property : Property}
  {source : SourceId} {wrappers : List Wrapper}

/-- A column is found exactly in aliases and nullable markers around it. -/
theorem column?_eq_some_iff :
    expr.column? = some column ↔
      ∃ wrappers, (∀ wrapper ∈ wrappers, wrapper.showsColumn = true) ∧
        expr = (Expr.column column).wrappedIn wrappers := by
  rw [descends_column?.eq_some_iff]
  simp only [ownColumn?_eq_some_iff]
  constructor
  · intro stack
    rcases stack with ⟨wrappers, core, shown, same, rfl⟩
    exact ⟨wrappers, shown, same⟩
  · intro stack
    rcases stack with ⟨wrappers, shown, same⟩
    exact ⟨wrappers, _, shown, same, rfl⟩

/-- A property is found exactly in aliases and references around a column that
stores it. -/
theorem property?_eq_some_iff :
    expr.property? = some property ↔
      ∃ wrappers column,
        (∀ wrapper ∈ wrappers, wrapper.showsProperty = true) ∧
        expr = (Expr.column column).wrappedIn wrappers ∧
        column.property = property := by
  rw [descends_property?.eq_some_iff]
  simp only [ownProperty?_eq_some_iff]
  constructor
  · intro stack
    rcases stack with ⟨wrappers, core, shown, same, column, rfl, stored⟩
    exact ⟨wrappers, column, shown, same, stored⟩
  · intro stack
    rcases stack with ⟨wrappers, column, shown, same, stored⟩
    exact ⟨wrappers, _, shown, same, column, rfl, stored⟩

/-- A source is found exactly in aliases around a column of a table that has it,
or around a reference through a scope that has it. -/
theorem source?_eq_some_iff :
    expr.source? = some source ↔
      ∃ (wrappers : List Wrapper) (core : Expr),
        (∀ wrapper ∈ wrappers, wrapper.showsSource = true) ∧
        expr = core.wrappedIn wrappers ∧
        ((∃ column, core = .column column ∧ column.table.source = source) ∨
          ∃ inner scope, core = .reference inner scope ∧
            scope.source = source) := by
  rw [descends_source?.eq_some_iff]
  simp only [ownSource?_eq_some_iff]

/-! ## Agreement -/

/-- On the way down to a column, a descent that crosses aliases and finds nothing
at a nullable marker finds what the column has, unless there is a marker on the
way. -/
theorem resolve_wrappedIn_column {found : Type}
    {resolve? : Expr → Option found}
    (crossesAlias : ∀ inner aliasName,
      resolve? (.aliased inner aliasName) = resolve? inner)
    (stopsAtMarker : ∀ operand, resolve? (.nullable operand) = none)
    (shown : ∀ wrapper ∈ wrappers, wrapper.showsColumn = true) :
    resolve? ((Expr.column column).wrappedIn wrappers) =
      if .nullable ∈ wrappers then none else resolve? (.column column) := by
  induction wrappers with
  | nil => rfl
  | cons wrapper wrappers inductionHypothesis =>
      obtain ⟨first, rest⟩ := List.forall_mem_cons.mp shown
      cases wrapper with
      | aliased aliasName =>
          rw [wrappedIn_cons, Wrapper.around, crossesAlias,
            inductionHypothesis rest]
          simp
      | nullable => simp [Wrapper.around, stopsAtMarker]
      | reference _ | convert _ => cases first

/-- Where a column is found, the property and the source are those of the column,
or a nullable marker on the way hides both. -/
theorem found_of_column? (resolved : expr.column? = some column) :
    ∃ wrappers, expr = (Expr.column column).wrappedIn wrappers ∧
      (expr.property? =
        if .nullable ∈ wrappers then none else some column.property) ∧
      expr.source? =
        if .nullable ∈ wrappers then none else some column.table.source := by
  obtain ⟨wrappers, shown, rfl⟩ := column?_eq_some_iff.mp resolved
  refine ⟨wrappers, rfl, ?_, ?_⟩
  · exact resolve_wrappedIn_column (fun _ _ => rfl) (fun _ => rfl) shown
  · exact resolve_wrappedIn_column (fun _ _ => rfl) (fun _ => rfl) shown

/-- What has a property has a source: the descent to the source crosses the same
aliases, and answers at the latest where the other one crosses a reference. -/
theorem source?_isSome_of_property? (resolved : expr.property? = some property) :
    ∃ source, expr.source? = some source := by
  obtain ⟨wrappers, column, shown, rfl, -⟩ :=
    property?_eq_some_iff.mp resolved
  clear resolved
  induction wrappers with
  | nil => exact ⟨column.table.source, rfl⟩
  | cons wrapper wrappers inductionHypothesis =>
      obtain ⟨first, rest⟩ := List.forall_mem_cons.mp shown
      cases wrapper with
      | aliased aliasName => exact inductionHypothesis rest
      | reference scope => exact ⟨scope.source, rfl⟩
      | nullable | convert _ => cases first

end Expr

/-- Where the three descents answer and how the answers agree.  Each answers
exactly on the stacks of its own wrappers over a node that has the answer.  What
has a property has a source.  Where a column is found, a property or a source
can only be those of the column, the one is found if the other is, and they are
missing exactly if a nullable marker lies on the way down to the column. -/
theorem resolvers_answer_on_chains (expr : Expr) :
    (∀ column, expr.column? = some column ↔
      ∃ wrappers : List Wrapper,
        (∀ wrapper ∈ wrappers, wrapper.showsColumn = true) ∧
        expr = (Expr.column column).wrappedIn wrappers) ∧
    (∀ property, expr.property? = some property ↔
      ∃ (wrappers : List Wrapper) (column : Column),
        (∀ wrapper ∈ wrappers, wrapper.showsProperty = true) ∧
        expr = (Expr.column column).wrappedIn wrappers ∧
        column.property = property) ∧
    (∀ source, expr.source? = some source ↔
      ∃ (wrappers : List Wrapper) (core : Expr),
        (∀ wrapper ∈ wrappers, wrapper.showsSource = true) ∧
        expr = core.wrappedIn wrappers ∧
        ((∃ column, core = .column column ∧ column.table.source = source) ∨
          ∃ inner scope, core = .reference inner scope ∧
            scope.source = source)) ∧
    (∀ property, expr.property? = some property →
      ∃ source, expr.source? = some source) ∧
    (∀ column, expr.column? = some column →
      (∀ property, expr.property? = some property →
        property = column.property ∧
          expr.source? = some column.table.source) ∧
      (∀ source, expr.source? = some source →
        source = column.table.source ∧
          expr.property? = some column.property) ∧
      ∀ wrappers, expr = (Expr.column column).wrappedIn wrappers →
        (expr.property? = none ↔ .nullable ∈ wrappers)) := by
  refine ⟨fun _ => Expr.column?_eq_some_iff, fun _ => Expr.property?_eq_some_iff,
    fun _ => Expr.source?_eq_some_iff,
    fun _ => Expr.source?_isSome_of_property?, ?_⟩
  intro column resolved
  obtain ⟨wrappers, same, property, source⟩ := Expr.found_of_column? resolved
  by_cases marked : .nullable ∈ wrappers
  · rw [if_pos marked] at property source
    refine ⟨by simp [property], by simp [source], ?_⟩
    intro others sameOthers
    obtain ⟨rfl, -⟩ := Expr.wrappedIn_column_inj.mp (same.symm.trans sameOthers)
    simp [property, marked]
  · rw [if_neg marked] at property source
    refine ⟨by simp [property, source, eq_comm],
      by simp [property, source, eq_comm], ?_⟩
    intro others sameOthers
    obtain ⟨rfl, -⟩ := Expr.wrappedIn_column_inj.mp (same.symm.trans sameOthers)
    simp [property, marked]

/-- A reference on the way hides the column and nothing else. -/
example :
    let column : Column := ⟨⟨"Name", "name"⟩, .physical "Customers" "c" ⟨1⟩⟩
    let expr : Expr := .aliased (.reference (.aliased (.column column) "n")
      (.subquery "t0" ⟨2⟩)) "m"
    (expr.column?, expr.property?, expr.source?) =
      (none, some column.property, some ⟨2⟩) := rfl

end ScopedQuery
