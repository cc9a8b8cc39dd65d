/-
Module: ScopedQuery.Proofs.OuterNames
Purpose: A reference that flattening makes is addressed by the name of its own
  entry, and no name is given to two entries.
Trusted boundary: none
Main exports:
  nameAt, Decision.name_inner, Select.same_name_only_in_input,
  Select.shared_name_from_input, outer_references_address_entries
-/
import ScopedQuery.Proofs.Flattening

namespace ScopedQuery

/-!
The names of the rewritten projection are those of the input and the generated
aliases.  An alias is chosen outside the names of all entries, the later ones
included, and outside the aliases chosen before it.  So two entries can share a
name afterwards only if both had it before.
-/

/-- The name by which the enclosing scope knows the entry at a position. -/
def nameAt (projection : List Expr) (position : Nat) : Option String :=
  projection[position]?.bind Expr.outerName?

theorem nameAt_eq_some_iff {projection : List Expr} {position : Nat}
    {name : String} :
    nameAt projection position = some name ↔
      ∃ entry, projection[position]? = some entry ∧
        entry.outerName? = some name :=
  Option.bind_eq_some_iff

/-- Looking up a name that one position has finds this position. -/
theorem findIdx?_of_alone {projection : List Expr} {position : Nat}
    {name : String}
    (alone : ∀ j, nameAt projection j = some name ↔ j = position) :
    (projection.findIdx? fun entry => entry.outerName? == some name) =
      some position := by
  obtain ⟨entry, found, named⟩ :=
    nameAt_eq_some_iff.mp ((alone position).mpr rfl)
  obtain ⟨bound, rfl⟩ := List.getElem?_eq_some_iff.mp found
  rw [List.findIdx?_eq_some_iff_getElem]
  refine ⟨bound, by simpa using named, ?_⟩
  intro j less same
  have earlier : nameAt projection j = some name :=
    nameAt_eq_some_iff.mpr
      ⟨projection[j], List.getElem?_eq_getElem _, by simpa using same⟩
  exact absurd ((alone j).mp earlier) (Nat.ne_of_lt less)

/-- A pairwise symmetric relation holds between the items at two positions. -/
private theorem pairwise_at_positions {item : Type} {items : List item}
    {relation : item → item → Prop} {left right : item} {i j : Nat}
    (symmetric : ∀ {first second},
      relation first second → relation second first)
    (pairwise : items.Pairwise relation) (different : i ≠ j)
    (atLeft : items[i]? = some left) (atRight : items[j]? = some right) :
    relation left right := by
  obtain ⟨leftBound, rfl⟩ := List.getElem?_eq_some_iff.mp atLeft
  obtain ⟨rightBound, rfl⟩ := List.getElem?_eq_some_iff.mp atRight
  rw [List.pairwise_iff_getElem] at pairwise
  rcases Nat.lt_or_gt_of_ne different with less | greater
  · exact pairwise i j leftBound rightBound less
  · exact symmetric (pairwise j i rightBound leftBound greater)

namespace Expr

theorem outerName?_of_isReferenceable {expr : Expr}
    (named : expr.isReferenceable = true) :
    expr.outerName? = some expr.addressedName := by
  simp [outerName?, named]

end Expr

namespace Decision

/-- The name of a decision's entry inside the nested query is the name that the
entry had or the alias that was generated for it. -/
theorem name_inner {decision : Decision} {name : String}
    (named : decision.inner.outerName? = some name) :
    decision.entry.outerName? = some name ∨
      decision.aliasName? = some name := by
  cases decision with
  | lift entry => exact Or.inl named
  | inline entry => exact Or.inl named
  | name entry aliasName => exact Or.inr named

/-- A reference in the list for the enclosing query has the name of the entry
inside the nested query. -/
theorem Proper.name_outer_reference {decision : Decision}
    (proper : decision.Proper) {scope seen : Table} {inner : Expr}
    (reference : decision.outer scope = .reference inner seen) :
    decision.inner.outerName? =
      some (Expr.reference inner seen).addressedName := by
  cases decision with
  | lift entry =>
      cases reference
      exact Expr.outerName?_of_isReferenceable proper
  | inline entry =>
      -- A reference is lifted, so it never comes out of an inlined entry.
      obtain ⟨unnamed, -⟩ := proper
      change entry = .reference inner seen at reference
      subst reference
      cases unnamed
  | name entry aliasName =>
      cases reference
      rfl

end Decision

namespace Select

variable {config : Config} {select : Select} {result : Flattened}
  {stem name : String} {i j : Nat} {first second : Decision}

/-- An alias is the name of no entry of the input. -/
theorem alias_ne_input_name
    (atFirst : (select.decisions stem)[i]? = some first)
    (atSecond : (select.decisions stem)[j]? = some second)
    (generated : first.aliasName? = some name) :
    second.entry.outerName? ≠ some name := by
  intro named
  have inside := entry_mem (List.mem_of_getElem? atSecond)
  have taken : name ∈ select.outerNames :=
    List.mem_filterMap.mpr ⟨second.entry, inside, named⟩
  exact decideEntries_alias_not_mem (List.mem_of_getElem? atFirst) generated
    taken

/-- Two positions have different aliases. -/
theorem aliases_apart (different : i ≠ j)
    (atFirst : (select.decisions stem)[i]? = some first)
    (atSecond : (select.decisions stem)[j]? = some second)
    (generated : first.aliasName? = some name) :
    second.aliasName? ≠ some name := by
  have apart := pairwise_at_positions
    (fun {first second} apart name generated same =>
      apart name same generated)
    (decideEntries_aliases_apart stem select.outerNames select.projection)
    different atFirst atSecond
  exact apart name generated

/-- Two entries that have one name inside the nested query both had it
before. -/
theorem same_name_only_in_input (different : i ≠ j)
    (atFirst : (select.decisions stem)[i]? = some first)
    (atSecond : (select.decisions stem)[j]? = some second)
    (nameFirst : first.inner.outerName? = some name)
    (nameSecond : second.inner.outerName? = some name) :
    first.entry.outerName? = some name ∧
      second.entry.outerName? = some name := by
  rcases Decision.name_inner nameFirst with before | generated
  · rcases Decision.name_inner nameSecond with beforeSecond | generatedSecond
    · exact ⟨before, beforeSecond⟩
    · exact absurd before (alias_ne_input_name atSecond atFirst generatedSecond)
  · rcases Decision.name_inner nameSecond with beforeSecond | generatedSecond
    · exact absurd beforeSecond (alias_ne_input_name atFirst atSecond generated)
    · exact absurd generatedSecond
        (aliases_apart different atFirst atSecond generated)

/-- Where the names of the input are distinct, a name belongs to one
position. -/
theorem position_unique_of_nodup (distinct : select.outerNames.Nodup)
    (nameFirst : nameAt select.projection i = some name)
    (nameSecond : nameAt select.projection j = some name) : i = j := by
  obtain ⟨left, atLeft, nameLeft⟩ := nameAt_eq_some_iff.mp nameFirst
  obtain ⟨right, atRight, nameRight⟩ := nameAt_eq_some_iff.mp nameSecond
  by_contra different
  have apart := pairwise_at_positions
    (fun {first second} apart b nameB b' nameB' =>
      (apart b' nameB' b nameB).symm)
    (List.pairwise_filterMap.mp distinct) different atLeft atRight
  exact apart name nameLeft name nameRight rfl

/-! ## The rewritten projection -/

/-- The entries of the two projections at a position come from the decision
there. -/
theorem decision_at_outer {outer : Expr}
    (flattened : select.flatten config = .ok result)
    (found : result.outerProjection[i]? = some outer) :
    ∃ decision, (select.decisions config.aliasPrefix)[i]? = some decision ∧
      decision.Proper ∧ outer = decision.outer select.scope := by
  rw [eq_carryOut_of_flatten flattened] at found
  simp only [carryOut, List.getElem?_map, Option.map_eq_some_iff] at found
  obtain ⟨decision, decided, rfl⟩ := found
  exact ⟨decision, decided,
    decisions_proper decision (List.mem_of_getElem? decided), rfl⟩

theorem nameAt_rewritten (flattened : select.flatten config = .ok result)
    (position : Nat) :
    nameAt result.subquery.projection position =
      (select.decisions config.aliasPrefix)[position]?.bind fun decision =>
        decision.inner.outerName? := by
  rw [eq_carryOut_of_flatten flattened]
  rw [nameAt, carryOut, List.getElem?_map, Option.bind_map]
  rfl

theorem nameAt_input (stem : String) (select : Select) (position : Nat) :
    nameAt select.projection position =
      (select.decisions stem)[position]?.bind fun decision =>
        decision.entry.outerName? := by
  rw [nameAt, ← decisions_map_entry stem select, List.getElem?_map,
    Option.bind_map]
  rfl

/-- A name that two positions share after flattening was theirs before. -/
theorem shared_name_from_input (flattened : select.flatten config = .ok result)
    (different : i ≠ j)
    (nameFirst : nameAt result.subquery.projection i = some name)
    (nameSecond : nameAt result.subquery.projection j = some name) :
    nameAt select.projection i = some name ∧
      nameAt select.projection j = some name := by
  rw [nameAt_rewritten flattened, Option.bind_eq_some_iff]
    at nameFirst nameSecond
  obtain ⟨first, atFirst, nameFirst⟩ := nameFirst
  obtain ⟨second, atSecond, nameSecond⟩ := nameSecond
  obtain ⟨before, beforeSecond⟩ := same_name_only_in_input different atFirst
    atSecond nameFirst nameSecond
  simp only [nameAt_input config.aliasPrefix, atFirst, atSecond,
    Option.bind_some]
  exact ⟨before, beforeSecond⟩

/-- An entry that needs an alias stands under one in the rewritten
projection. -/
theorem aliased_of_complex {entry : Expr}
    (flattened : select.flatten config = .ok result)
    (found : select.projection[i]? = some entry)
    (unnamed : entry.isReferenceable = false)
    (complex : entry.isSimple = false) :
    ∃ aliasName,
      result.subquery.projection[i]? = some (.aliased entry aliasName) := by
  obtain ⟨decision, decided, proper, rfl⟩ := decision_at config.aliasPrefix found
  rw [eq_carryOut_of_flatten flattened]
  cases decision with
  | lift entry =>
      have named : entry.isReferenceable = true := proper
      simp [Decision.entry, named] at unnamed
  | inline entry =>
      simp [Decision.entry, proper.2] at complex
  | name entry aliasName =>
      exact ⟨aliasName, by simp [carryOut, decided, Decision.inner,
        Decision.entry]⟩

/-- A reference in the list for the enclosing query has the name of the entry
at its position. -/
theorem nameAt_of_outer_reference {inner : Expr} {seen : Table}
    (flattened : select.flatten config = .ok result)
    (found : result.outerProjection[i]? = some (.reference inner seen)) :
    nameAt result.subquery.projection i =
      some (Expr.reference inner seen).addressedName := by
  obtain ⟨decision, decided, proper, outer⟩ := decision_at_outer flattened found
  rw [nameAt_rewritten flattened, decided, Option.bind_some]
  exact proper.name_outer_reference outer.symm

end Select

/-- A reference that flattening makes has the name of the entry at its own
position.  Another entry has that name only if both had it in the input: so the
name of a generated alias belongs to its entry alone, and where the names of the
input are distinct, looking the name up finds the position of the reference and
no other. -/
theorem outer_references_address_entries {config : Config} {select : Select}
    {result : Flattened} (flattened : select.flatten config = .ok result) :
    (∀ (i : Nat) (inner : Expr) (seen : Table),
      result.outerProjection[i]? = some (.reference inner seen) →
      let name := (Expr.reference inner seen).addressedName
      nameAt result.subquery.projection i = some name ∧
      ∀ j ≠ i, nameAt result.subquery.projection j = some name →
        nameAt select.projection i = some name ∧
        nameAt select.projection j = some name) ∧
    (∀ (i : Nat) (entry : Expr), select.projection[i]? = some entry →
      entry.isReferenceable = false → entry.isSimple = false →
      ∃ aliasName,
        result.subquery.projection[i]? = some (.aliased entry aliasName) ∧
        ∀ j, nameAt result.subquery.projection j = some aliasName ↔ j = i) ∧
    (select.outerNames.Nodup →
      ∀ (i : Nat) (inner : Expr) (seen : Table),
        result.outerProjection[i]? = some (.reference inner seen) →
        let name := (Expr.reference inner seen).addressedName
        (result.subquery.projection.findIdx? fun entry =>
          entry.outerName? == some name) = some i ∧
        ∀ j, nameAt result.subquery.projection j = some name ↔ j = i) := by
  refine ⟨?_, ?_, ?_⟩
  · intro i inner seen found name
    have own := Select.nameAt_of_outer_reference flattened found
    refine ⟨own, ?_⟩
    intro j different shared
    exact Select.shared_name_from_input flattened different.symm own shared
  · intro i entry found unnamed complex
    obtain ⟨aliasName, rewritten⟩ :=
      Select.aliased_of_complex flattened found unnamed complex
    have own : nameAt result.subquery.projection i = some aliasName :=
      nameAt_eq_some_iff.mpr ⟨_, rewritten, rfl⟩
    refine ⟨aliasName, rewritten, ?_⟩
    intro j
    constructor
    · intro shared
      by_contra different
      obtain ⟨-, before⟩ :=
        Select.shared_name_from_input flattened different shared own
      simp [nameAt, found, Expr.outerName?, unnamed] at before
    · rintro rfl
      exact own
  · intro distinct i inner seen found name
    have own := Select.nameAt_of_outer_reference flattened found
    have alone : ∀ j, nameAt result.subquery.projection j = some name ↔
        j = i := by
      intro j
      constructor
      · intro shared
        by_contra different
        obtain ⟨before, beforeOwn⟩ :=
          Select.shared_name_from_input flattened different shared own
        exact different
          (Select.position_unique_of_nodup distinct before beforeOwn)
      · rintro rfl
        exact own
    exact ⟨findIdx?_of_alone alone, alone⟩

/-- A nested query in which a later column and a later alias have names that
would otherwise be generated. -/
def crowdedNames : Select :=
  .under "t0" ⟨2⟩
    [.other "a + b",
      .column ⟨⟨"Code", "c0"⟩, .physical "Customers" "c" ⟨1⟩⟩,
      .aliased (.other "x * y") "c2",
      .nullable (.parameter "p")]

/-- The generated aliases are `c1` and `c3`, and the latter is found at its own
entry alone. -/
theorem crowdedNames_address_entries :
    ∃ result, crowdedNames.flatten {} = .ok result ∧
      crowdedNames.outerNames.Nodup ∧
      result.outerProjection[3]? =
        some (.reference (.aliased (.nullable (.parameter "p")) "c3")
          crowdedNames.scope) ∧
      (result.subquery.projection.findIdx? fun entry =>
        entry.outerName? == some "c3") = some 3 ∧
      ∀ j, nameAt result.subquery.projection j = some "c3" ↔ j = 3 := by
  obtain ⟨result, flattened⟩ : ∃ result, crowdedNames.flatten {} = .ok result :=
    ⟨_, rfl⟩
  have distinct : crowdedNames.outerNames.Nodup := by decide
  have found : result.outerProjection[3]? =
      some (.reference (.aliased (.nullable (.parameter "p")) "c3")
        crowdedNames.scope) := by
    cases flattened
    rfl
  exact ⟨result, flattened, distinct, found,
    (outer_references_address_entries flattened).2.2 distinct 3 _ _ found⟩

end ScopedQuery
