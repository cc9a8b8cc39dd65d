/-
Module: ScopedQuery.Proofs.Equality
Purpose: Expressions that compare equal are treated alike: they get the same
  answers, and queries of them are flattened to results that compare equal.
Trusted boundary: none
Main exports:
  Expr.EqualNodes, Expr.equal_iff, Decision.Alike, decideEntries_alike,
  Flattened.equal, flatten_respects_equality
-/
import Mathlib.Data.List.Forall2
import ScopedQuery.Expr.Equality
import ScopedQuery.Expr.Resolution
import ScopedQuery.Proofs.Flattening
import ScopedQuery.Proofs.Parts

namespace ScopedQuery

/-!
Expressions that compare equal need not be the same.  They may differ in the sign
of a zero, and then their texts differ too.  But they differ nowhere else: their
nodes are of the same kinds, and their names, tables and columns are the same.
Neither a descent nor a decision looks at the value of a literal, so an expression
can be replaced by an equal one everywhere.
-/

namespace Expr

/-! ## Nodes of equal expressions -/

/-- Two nodes of one kind that agree in all but their literals and in their children
up to comparison. -/
inductive EqualNodes : Expr → Expr → Prop where
  | column (exposed : Column) : EqualNodes (.column exposed) (.column exposed)
  | aliased {left right : Expr} (aliasName : String)
      (inner : left.equal right = true) :
      EqualNodes (.aliased left aliasName) (.aliased right aliasName)
  | reference {left right : Expr} (scope : Table)
      (inner : left.equal right = true) :
      EqualNodes (.reference left scope) (.reference right scope)
  | nullable {left right : Expr} (operand : left.equal right = true) :
      EqualNodes (.nullable left) (.nullable right)
  | convert {left right : Expr} (targetType : String)
      (operand : left.equal right = true) :
      EqualNodes (.convert left targetType) (.convert right targetType)
  | table (marker : Table) : EqualNodes (.table marker) (.table marker)
  | select {left right : List Expr} (scope : Table)
      (items : List.Forall₂ (fun left right => left.equal right = true)
        left right) :
      EqualNodes (.select scope left) (.select scope right)
  | constant {left right : Literal} (literal : left.equal right = true) :
      EqualNodes (.constant left) (.constant right)
  | parameter (name : String) : EqualNodes (.parameter name) (.parameter name)
  | other (text : String) : EqualNodes (.other text) (.other text)

/-- Lists compare equal when their items do, one by one. -/
theorem equalItems_iff {left right : List Expr} :
    equalItems left right = true ↔
      List.Forall₂ (fun left right => left.equal right = true) left right := by
  induction left generalizing right with
  | nil =>
      cases right with
      | nil => simp [equalItems]
      | cons item items => simp [equalItems]
  | cons head rest inductionHypothesis =>
      cases right with
      | nil => simp [equalItems]
      | cons item items => simp [equalItems, inductionHypothesis]

/-- Comparison goes node by node. -/
theorem equal_iff {left right : Expr} :
    left.equal right = true ↔ EqualNodes left right := by
  constructor
  · intro same
    fun_cases equal left right with
    | case1 left right =>
        obtain rfl := eq_of_beq same
        exact .column left
    | case2 left leftName right rightName =>
        obtain ⟨inner, names⟩ := Bool.and_eq_true_iff.mp same
        obtain rfl := eq_of_beq names
        exact .aliased leftName inner
    | case3 left leftScope right rightScope =>
        obtain ⟨inner, scopes⟩ := Bool.and_eq_true_iff.mp same
        obtain rfl := eq_of_beq scopes
        exact .reference leftScope inner
    | case4 left right => exact .nullable same
    | case5 left leftType right rightType =>
        obtain ⟨operand, types⟩ := Bool.and_eq_true_iff.mp same
        obtain rfl := eq_of_beq types
        exact .convert leftType operand
    | case6 left right =>
        obtain rfl := eq_of_beq same
        exact .table left
    | case7 leftScope left rightScope right =>
        obtain ⟨scopes, items⟩ := Bool.and_eq_true_iff.mp same
        obtain rfl := eq_of_beq scopes
        exact .select leftScope (equalItems_iff.mp items)
    | case8 left right => exact .constant same
    | case9 left right =>
        obtain rfl := eq_of_beq same
        exact .parameter left
    | case10 left right =>
        obtain rfl := eq_of_beq same
        exact .other left
    | case11 => simp_all [equal]
  · intro nodes
    cases nodes with
    | select scope items => simp [equal, equalItems_iff.mpr items]
    | _ => simp_all [equal]

/-! ## Answers about equal expressions -/

section Answers

variable {left right : Expr} (same : left.equal right = true)
include same

theorem isReferenceable_of_equal :
    left.isReferenceable = right.isReferenceable := by
  cases equal_iff.mp same <;> rfl

theorem isAtomic_of_equal : left.isAtomic = right.isAtomic := by
  cases equal_iff.mp same <;> rfl

theorem withoutConvert_equal :
    left.withoutConvert.equal right.withoutConvert = true := by
  cases equal_iff.mp same with
  | convert targetType operand => exact operand
  | _ => exact same

theorem isSimple_of_equal : left.isSimple = right.isSimple :=
  isAtomic_of_equal (withoutConvert_equal same)

theorem referenceDepth_of_equal :
    left.referenceDepth = right.referenceDepth := by
  induction left using induction_on_children generalizing right with
  | step left inductionHypothesis =>
      cases equal_iff.mp same with
      | @reference inner _ _ seen =>
          have depth :=
            inductionHypothesis inner (List.mem_singleton_self inner) seen
          exact congrArg Nat.succ depth
      | _ => rfl

theorem addressedName_of_equal :
    left.addressedName = right.addressedName := by
  induction left using induction_on_children generalizing right with
  | step left inductionHypothesis =>
      cases equal_iff.mp same with
      | @reference inner _ _ seen =>
          have answer :=
            inductionHypothesis inner (List.mem_singleton_self inner) seen
          exact answer
      | _ => rfl

theorem outerName?_of_equal : left.outerName? = right.outerName? := by
  rw [outerName?, outerName?, isReferenceable_of_equal same,
    addressedName_of_equal same]

theorem column?_of_equal : left.column? = right.column? := by
  induction left using induction_on_children generalizing right with
  | step left inductionHypothesis =>
      cases equal_iff.mp same with
      | @aliased inner _ _ inside | @nullable inner _ inside =>
          have answer :=
            inductionHypothesis inner (List.mem_singleton_self inner) inside
          exact answer
      | _ => rfl

theorem property?_of_equal : left.property? = right.property? := by
  induction left using induction_on_children generalizing right with
  | step left inductionHypothesis =>
      cases equal_iff.mp same with
      | @aliased inner _ _ inside | @reference inner _ _ inside =>
          have answer :=
            inductionHypothesis inner (List.mem_singleton_self inner) inside
          exact answer
      | _ => rfl

theorem source?_of_equal : left.source? = right.source? := by
  induction left using induction_on_children generalizing right with
  | step left inductionHypothesis =>
      cases equal_iff.mp same with
      | @aliased inner _ _ inside =>
          have answer :=
            inductionHypothesis inner (List.mem_singleton_self inner) inside
          exact answer
      | _ => rfl

/-- Equal expressions are lifted to equal references, or neither is. -/
theorem lift?_of_equal (scope : Table) :
    Option.Rel (fun left right => left.equal right = true)
      (left.lift? scope) (right.lift? scope) := by
  rw [lift?, lift?, isReferenceable_of_equal same]
  split
  · exact .some (equal_iff.mpr (.reference scope same))
  · exact .none

theorem needsAlias_of_equal : left.needsAlias = right.needsAlias := by
  rw [needsAlias, needsAlias, isReferenceable_of_equal same,
    isSimple_of_equal same]

theorem outerDepth_of_equal : left.outerDepth = right.outerDepth := by
  rw [outerDepth, outerDepth, isReferenceable_of_equal same,
    isSimple_of_equal same, referenceDepth_of_equal same]

end Answers

end Expr

/-! ## Decisions -/

/-- The same is decided about equal entries. -/
inductive Decision.Alike : Decision → Decision → Prop where
  | lift {left right : Expr} (same : left.equal right = true) :
      Alike (.lift left) (.lift right)
  | inline {left right : Expr} (same : left.equal right = true) :
      Alike (.inline left) (.inline right)
  | name {left right : Expr} (aliasName : String)
      (same : left.equal right = true) :
      Alike (.name left aliasName) (.name right aliasName)

namespace Decision

variable {left right : Decision}

theorem Alike.inner_equal (alike : Alike left right) :
    left.inner.equal right.inner = true := by
  cases alike with
  | lift same | inline same => exact same
  | name aliasName same => exact Expr.equal_iff.mpr (.aliased aliasName same)

theorem Alike.outer_equal (alike : Alike left right) (scope : Table) :
    (left.outer scope).equal (right.outer scope) = true := by
  cases alike with
  | lift same => exact Expr.equal_iff.mpr (.reference scope same)
  | inline same => exact same
  | name aliasName same =>
      have aliased := Expr.equal_iff.mpr (.aliased aliasName same)
      exact Expr.equal_iff.mpr (.reference scope aliased)

/-- From the same names the same is decided about equal entries. -/
theorem about_alike (stem : String) (taken : List String) {left right : Expr}
    (same : left.equal right = true) :
    Alike (about stem taken left) (about stem taken right) := by
  rw [about, about, Expr.isReferenceable_of_equal same,
    Expr.isSimple_of_equal same]
  split
  · exact .lift same
  · split
    · exact .inline same
    · exact .name _ same

end Decision

/-- From the same names the same is decided about lists of equal entries: an alias
is generated for an entry of one list when it is for its counterpart, and it is the
same alias. -/
theorem decideEntries_alike (stem : String) {left right : List Expr}
    (same : List.Forall₂ (fun left right => left.equal right = true) left right)
    (taken : List String) :
    List.Forall₂ Decision.Alike (decideEntries stem taken left)
      (decideEntries stem taken right) := by
  induction same generalizing taken with
  | nil => exact .nil
  | cons first rest inductionHypothesis =>
      rw [decideEntries_cons, decideEntries_cons, Decision.aliasName?_about,
        Decision.aliasName?_about, Expr.needsAlias_of_equal first]
      exact .cons (Decision.about_alike stem taken first)
        (inductionHypothesis _)

/-! ## Flattening -/

/-- A function that agrees on equal expressions gives the same list for lists of
equal expressions. -/
theorem map_eq_of_equal {value : Type} {ask : Expr → value}
    (agrees : ∀ {left right : Expr}, left.equal right = true →
      ask left = ask right) {left right : List Expr}
    (same : List.Forall₂ (fun left right => left.equal right = true)
      left right) :
    left.map ask = right.map ask := by
  induction same with
  | nil => rfl
  | cons first rest inductionHypothesis =>
      rw [List.map_cons, List.map_cons, agrees first, inductionHypothesis]

/-- Equality of outcomes of flattening. -/
def Flattened.equal (left right : Flattened) : Bool :=
  left.subquery.equal right.subquery &&
    Expr.equalItems left.outerProjection right.outerProjection

namespace Select

variable {left right : Select}

/-- Equal queries have one scope and equal entries. -/
theorem equal_iff :
    left.equal right = true ↔
      left.scope = right.scope ∧
        List.Forall₂ (fun left right => left.equal right = true)
          left.projection right.projection := by
  rw [equal, toExpr, toExpr, Expr.equal, Bool.and_eq_true, beq_iff_eq,
    Expr.equalItems_iff]

/-- The entries of equal queries have the same names. -/
theorem outerNames_of_equal (same : left.equal right = true) :
    left.outerNames = right.outerNames := by
  have names := congrArg (List.filterMap id)
    (map_eq_of_equal Expr.outerName?_of_equal (equal_iff.mp same).2)
  simpa [outerNames] using names

/-- What is carried out for equal queries is equal. -/
theorem carryOut_equal (stem : String) (same : left.equal right = true) :
    (carryOut left.scope (left.decisions stem)).equal
      (carryOut right.scope (right.decisions stem)) = true := by
  obtain ⟨scopes, entries⟩ := equal_iff.mp same
  have decided : List.Forall₂ Decision.Alike (left.decisions stem)
      (right.decisions stem) := by
    rw [decisions, decisions, outerNames_of_equal same]
    exact decideEntries_alike stem entries right.outerNames
  rw [Flattened.equal, Bool.and_eq_true, equal_iff, Expr.equalItems_iff]
  refine ⟨⟨scopes, ?_⟩, ?_⟩
  · rw [carryOut, carryOut, List.forall₂_map_left_iff,
      List.forall₂_map_right_iff]
    exact decided.imp fun _ _ alike => alike.inner_equal
  · rw [carryOut, carryOut, scopes, List.forall₂_map_left_iff,
      List.forall₂_map_right_iff]
    exact decided.imp fun _ _ alike => alike.outer_equal right.scope

/-- Equal queries are flattened to equal outcomes, or fail with the same fault. -/
theorem flatten_of_equal (config : Config) (same : left.equal right = true) :
    (∃ result other, left.flatten config = .ok result ∧
      right.flatten config = .ok other ∧ result.equal other = true) ∨
    ∃ fault, left.flatten config = .error fault ∧
      right.flatten config = .error fault := by
  obtain ⟨scopes, entries⟩ := equal_iff.mp same
  have depths := map_eq_of_equal Expr.outerDepth_of_equal entries
  have empty : left.projection = [] ↔ right.projection = [] := by
    rw [← List.length_eq_zero_iff, entries.length_eq, List.length_eq_zero_iff]
  rw [flatten_eq, flatten_eq, depths, scopes]
  by_cases noEntries : right.projection = []
  · rw [if_pos (empty.mpr noEntries), if_pos noEntries]
    exact .inr ⟨_, rfl, rfl⟩
  · rw [if_neg (mt empty.mp noEntries), if_neg noEntries]
    cases (right.projection.map Expr.outerDepth).find? fun depth =>
        config.maxLiftDepth.toNat < depth with
    | some depth => exact .inr ⟨_, rfl, rfl⟩
    | none =>
        have carried := carryOut_equal config.aliasPrefix same
        rw [scopes] at carried
        exact .inl ⟨_, _, rfl, rfl, carried⟩

end Select

/-- Flattening respects equality, in which the two zeros are equal.  Equal queries
are either both flattened, to outcomes that are equal down to the generated aliases,
or both fail with the same fault.  For equal expressions all questions have the same
answers, and either both can be lifted, to equal references, or neither. -/
theorem flatten_respects_equality (config : Config) :
    (∀ left right : Select, left.equal right = true →
      (∃ result other, left.flatten config = .ok result ∧
        right.flatten config = .ok other ∧ result.equal other = true) ∨
      ∃ fault, left.flatten config = .error fault ∧
        right.flatten config = .error fault) ∧
    ∀ left right : Expr, left.equal right = true →
      left.isSimple = right.isSimple ∧
      left.referenceDepth = right.referenceDepth ∧
      left.column? = right.column? ∧
      left.property? = right.property? ∧
      left.source? = right.source? ∧
      left.isReferenceable = right.isReferenceable ∧
      ∀ scope, Option.Rel (fun left right => left.equal right = true)
        (left.lift? scope) (right.lift? scope) := by
  constructor
  · intro left right same
    exact Select.flatten_of_equal config same
  · intro left right same
    exact ⟨Expr.isSimple_of_equal same, Expr.referenceDepth_of_equal same,
      Expr.column?_of_equal same, Expr.property?_of_equal same,
      Expr.source?_of_equal same, Expr.isReferenceable_of_equal same,
      Expr.lift?_of_equal same⟩

/-- A nested query that projects a zero under a nullable marker, a zero, and a
column. -/
def projectedZero (zero : Binary64) : Select :=
  .under "t0" ⟨2⟩
    [.nullable (.constant (.float zero)), .constant (.float zero),
      .column ⟨⟨"Id", "id"⟩, .physical "Customers" "c" ⟨1⟩⟩]

/-- With zeros of different sign the queries differ, but they are equal, and so are
the outcomes of flattening them. -/
theorem projectedZero_respects_equality :
    projectedZero ⟨0⟩ ≠ projectedZero ⟨0x8000000000000000⟩ ∧
      (projectedZero ⟨0⟩).equal (projectedZero ⟨0x8000000000000000⟩) = true ∧
      ∃ result other, (projectedZero ⟨0⟩).flatten {} = .ok result ∧
        (projectedZero ⟨0x8000000000000000⟩).flatten {} = .ok other ∧
        result.equal other = true := by
  have same : (projectedZero ⟨0⟩).equal
      (projectedZero ⟨0x8000000000000000⟩) = true := by decide
  refine ⟨by simp [projectedZero, Select.under], same, ?_⟩
  rcases (flatten_respects_equality {}).1 _ _ same with
    ⟨result, other, flattened, flattenedOther, equal⟩ | ⟨fault, failed, -⟩
  · exact ⟨result, other, flattened, flattenedOther, equal⟩
  · cases failed

end ScopedQuery
