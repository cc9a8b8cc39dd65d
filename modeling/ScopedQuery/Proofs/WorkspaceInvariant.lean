/-
Module: ScopedQuery.Proofs.WorkspaceInvariant
Purpose: Everything that a workspace holds after any steps is well formed.
Trusted boundary: none
Main exports:
  Workspace.WellFormed, Workspace.makeExpr_gives, Workspace.Levels.run_gives,
  Workspace.perform_gives, Workspace.reached_wellFormed
-/
import ScopedQuery.Proofs.WellFormedness
import ScopedQuery.Workspace.Basic

namespace ScopedQuery.Workspace

/-!
A workspace has only the bindings that its steps made, and a step binds what it
has made out of bound expressions.  So it is enough that every form and every
flattening keeps expressions well formed.
-/

/-- Every expression that is bound, alone or in a list, is well formed. -/
structure WellFormed (workspace : Workspace) : Prop where
  exprs : ∀ name expr, (name, expr) ∈ workspace.exprs → expr.WellFormed
  lists : ∀ name list, (name, list) ∈ workspace.lists →
    ∀ entry ∈ list, entry.WellFormed

/-! ## Looking up -/

/-- What is found under a name has the property of everything bound. -/
theorem find_gives {value : Type} {property : value → Prop}
    {bindings : Bindings value} {name : String}
    (holds : ∀ name found, (name, found) ∈ bindings → property found) :
    Gives (find bindings name) property := by
  unfold find
  split
  · next found looked =>
      obtain ⟨before, later, rfl, -⟩ := List.lookup_eq_some_iff.mp looked
      exact .ok (holds name found (by simp))
  · exact .error

theorem decoded_gives {value : Type} {property : value → Prop}
    {computation : Except DecodeError value}
    (gives : Gives computation property) :
    Gives (decoded computation) property := by
  cases computation with
  | error reason => exact .error
  | ok found => exact .ok (gives.holds found rfl)

/-! ## Making expressions -/

/-- A wrapper that keeps expressions well formed does so any number of
times. -/
theorem wrapTimes_wellFormed {wrap : Expr → Expr} {expr : Expr} (times : Nat)
    (keeps : ∀ inner : Expr, inner.WellFormed → (wrap inner).WellFormed)
    (wellFormed : expr.WellFormed) : (wrapTimes wrap times expr).WellFormed := by
  induction times with
  | zero => exact wellFormed
  | succ times inductionHypothesis => exact keeps _ inductionHypothesis

theorem withoutConvert_wellFormed {expr : Expr}
    (wellFormed : expr.WellFormed) : expr.withoutConvert.WellFormed := by
  cases expr with
  | _ => exact wellFormed

variable {workspace : Workspace}

theorem list_gives {name : String} (wellFormed : workspace.WellFormed) :
    Gives (find workspace.lists name) fun entries : List Expr =>
      ∀ entry ∈ entries, entry.WellFormed :=
  find_gives wellFormed.lists

theorem exprs_give {names : List String} (wellFormed : workspace.WellFormed) :
    Gives (names.mapM (find workspace.exprs)) fun entries : List Expr =>
      ∀ entry ∈ entries, entry.WellFormed :=
  .mapM fun _ => find_gives wellFormed.exprs

theorem gather_gives {list : Option String} {projection : List String}
    (wellFormed : workspace.WellFormed) :
    Gives (workspace.gather list projection) fun entries =>
      ∀ entry ∈ entries, entry.WellFormed := by
  cases list with
  | none =>
      have front : Gives (.ok [] : Except StepError (List Expr)) fun entries =>
          ∀ entry ∈ entries, entry.WellFormed := .ok (by simp)
      apply Gives.bind front
      intro front holds
      apply Gives.bind (exprs_give wellFormed)
      intro entries back
      exact .ok (List.forall_mem_append.mpr ⟨holds, back⟩)
  | some name =>
      apply Gives.bind (list_gives wellFormed)
      intro front holds
      apply Gives.bind (exprs_give wellFormed)
      intro entries back
      exact .ok (List.forall_mem_append.mpr ⟨holds, back⟩)

theorem some_gives {fault : Type} {expr : Expr} (holds : expr.WellFormed) :
    Gives (.ok (some expr) : Except fault (Option Expr)) fun made =>
      ∀ expr ∈ made, expr.WellFormed :=
  .ok (by simpa using holds)

/-- Every form makes a well-formed expression, or none. -/
theorem makeExpr_gives (form : ExprForm) (wellFormed : workspace.WellFormed) :
    Gives (workspace.makeExpr form) fun made =>
      ∀ expr ∈ made, expr.WellFormed := by
  have operand : ∀ name, Gives (find workspace.exprs name) Expr.WellFormed :=
    fun name => find_gives wellFormed.exprs
  cases form with
  | column propertyName columnName table =>
      exact .bind .any fun table _ => some_gives trivial
  | aliased name _ times | nullable name times | convert name _ times =>
      apply Gives.bind (operand name)
      intro inner holds
      exact some_gives (wrapTimes_wellFormed times (fun _ keeps => keeps) holds)
  | constant json => exact .bind .any fun literal _ => some_gives trivial
  | float value => exact some_gives trivial
  | parameter name => exact some_gives trivial
  | other text => exact some_gives trivial
  | decoded json =>
      apply Gives.bind (decoded_gives (Expr.decode_gives json))
      intro expr holds
      exact some_gives holds
  | table name => exact .bind .any fun table _ => some_gives trivial
  | select list projection aliasName source =>
      apply Gives.bind (gather_gives wellFormed)
      intro entries holds
      apply Gives.bind .any
      intro source _
      exact some_gives ((Expr.wellFormedItems_iff entries).mpr holds)
  | strip name =>
      apply Gives.bind (operand name)
      intro inner holds
      exact some_gives (withoutConvert_wellFormed holds)
  | pick index list =>
      apply Gives.bind (list_gives wellFormed)
      intro entries holds
      exact .ok fun expr found => holds expr (List.mem_of_getElem? found)
  | reload name =>
      apply Gives.bind .any
      intro expr _
      apply Gives.bind (decoded_gives (Expr.decode_gives _))
      intro again holds
      exact some_gives holds
  | lift name table times =>
      apply Gives.bind (operand name)
      intro inner holds
      apply Gives.bind .any
      intro scope _
      exact .ok fun lifted made => Expr.liftTimes?_wellFormed holds made

/-! ## Steps -/

/-- Level after level, the list stays well formed. -/
theorem Levels.run_gives {levels : Levels} {config : Config} {level : Nat}
    (times : Nat) {list : List Expr}
    (further : ∀ entry ∈ levels.further, entry.WellFormed)
    (wellFormed : ∀ entry ∈ list, entry.WellFormed) :
    Gives (levels.run config level times list) fun entries =>
      ∀ entry ∈ entries, entry.WellFormed := by
  induction times generalizing level list with
  | zero => exact .ok wellFormed
  | succ times inductionHypothesis =>
      have select : (levels.select level list).WellFormed :=
        List.forall_mem_append.mpr ⟨wellFormed, further⟩
      rw [Levels.run]
      split
      · next result flattened =>
          have both := (Select.flatten_gives select).holds result flattened
          exact inductionHypothesis both.outerProjection
      · exact .error

/-- A property of what is bound is one of what is bound afterwards, if the new
value has it. -/
theorem bound_after_cons {value : Type} {property : value → Prop}
    {bindings : Bindings value} {name : String} {added : value}
    (holds : property added)
    (before : ∀ name found, (name, found) ∈ bindings → property found) :
    ∀ other found, (other, found) ∈ (name, added) :: bindings →
      property found := by
  intro other found member
  rcases List.mem_cons.mp member with same | earlier
  · cases same
    exact holds
  · exact before other found earlier

theorem WellFormed.bindExpr {name : String} {expr : Expr}
    (wellFormed : workspace.WellFormed) (holds : expr.WellFormed) :
    WellFormed { workspace with exprs := (name, expr) :: workspace.exprs } where
  exprs := bound_after_cons holds wellFormed.exprs
  lists := wellFormed.lists

theorem WellFormed.bindList {name : String} {list : List Expr}
    (wellFormed : workspace.WellFormed)
    (holds : ∀ entry ∈ list, entry.WellFormed) :
    WellFormed { workspace with lists := (name, list) :: workspace.lists } where
  exprs := wellFormed.exprs
  lists := bound_after_cons holds wellFormed.lists

theorem findSelect_gives {name : String} (wellFormed : workspace.WellFormed) :
    Gives (workspace.findSelect name) Select.WellFormed := by
  apply Gives.bind (find_gives wellFormed.exprs)
  intro expr holds
  split
  · next select isSelect => exact .ok (holds.select? isSelect)
  · exact .error

theorem findLevels_gives {nesting : Nesting}
    (wellFormed : workspace.WellFormed) :
    Gives (workspace.findLevels nesting) fun found =>
      (∀ entry ∈ found.1, entry.WellFormed) ∧
        ∀ entry ∈ found.2.further, entry.WellFormed := by
  apply Gives.bind (list_gives wellFormed)
  intro list holds
  apply Gives.bind .any
  intro source _
  apply Gives.bind (exprs_give wellFormed)
  intro entries further
  exact .ok ⟨holds, further⟩

/-- A step that succeeds in a well-formed workspace leads to a well-formed
one. -/
theorem perform_gives (step : Step) (wellFormed : workspace.WellFormed) :
    Gives (workspace.perform step) fun next => next.1.WellFormed := by
  cases step with
  | configure json =>
      cases json with
      | none => exact .ok ⟨wellFormed.exprs, wellFormed.lists⟩
      | some json =>
          apply Gives.bind .any
          intro config _
          exact .ok ⟨wellFormed.exprs, wellFormed.lists⟩
  | bindTable form name =>
      apply Gives.bind .any
      intro table _
      exact .ok ⟨wellFormed.exprs, wellFormed.lists⟩
  | bindExpr form name =>
      apply Gives.bind (makeExpr_gives form wellFormed)
      intro made holds
      split
      · next expr => exact .ok (wellFormed.bindExpr (holds expr rfl))
      · exact .ok wellFormed
  | flatten select list name =>
      apply Gives.bind (findSelect_gives wellFormed)
      intro query holds
      split
      · next result flattened =>
          have both := (Select.flatten_gives holds).holds result flattened
          have subquery := Select.toExpr_wellFormed_iff.mpr both.subquery
          exact .ok ((wellFormed.bindExpr subquery).bindList
            both.outerProjection)
      · exact .error
  | nest nesting =>
      apply Gives.bind (findLevels_gives wellFormed)
      rintro ⟨list, levels⟩ ⟨holds, further⟩
      apply Gives.bind (Levels.run_gives nesting.times further holds)
      intro entries outer
      exact .ok (wellFormed.bindList outer)
  | inspect expr => exact .bind .any fun _ _ => .ok wellFormed
  | encode expr => exact .bind .any fun _ _ => .ok wellFormed
  | compare left right =>
      exact .bind .any fun _ _ => .bind .any fun _ _ => .ok wellFormed

theorem after_wellFormed {step : Step} (wellFormed : workspace.WellFormed) :
    (workspace.after step).WellFormed := by
  unfold after
  split
  · next next answer performed =>
      exact (perform_gives step wellFormed).holds (next, answer) performed
  · exact wellFormed

theorem foldl_after_wellFormed (steps : List Step)
    (wellFormed : workspace.WellFormed) :
    (steps.foldl after workspace).WellFormed := by
  induction steps generalizing workspace with
  | nil => exact wellFormed
  | cons step steps inductionHypothesis =>
      exact inductionHypothesis (after_wellFormed wellFormed)

/-- Whatever steps are done, and whichever of them fail, a workspace that was
empty at first holds well-formed expressions only. -/
theorem reached_wellFormed (steps : List Step) :
    (steps.foldl after {}).WellFormed := by
  apply foldl_after_wellFormed
  constructor
  · intro name expr member
    cases member
  · intro name list member
    cases member

end ScopedQuery.Workspace
