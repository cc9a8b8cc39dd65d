/-
Module: ScopedQuery.Proofs.AliasNumbers
Purpose: The aliases that flattening generates are numbered by a counter that
  only goes up and skips the numbers whose names the entries have.
Trusted boundary: none
Main exports:
  AliasName.Free, AliasName.nextFree, AliasName.freeNumber,
  AliasName.TakenBelow, countedAliases, map_inner_decideEntries,
  flatten_numbers_aliases_in_order
-/
import Mathlib.Data.Nat.Nth
import Mathlib.Data.Set.Finite.List
import ScopedQuery.Proofs.Flattening

namespace ScopedQuery

/-!
Every alias is looked for from zero on, among names that grow with each alias.
What is taken at any moment are the names of the entries and all numbered names
below some number.  So the search ends where a counter that starts at this
number would end, and afterwards all numbered names up to the one found are
taken.
-/

namespace AliasName

variable {stem : String} {names taken : List String} {start number : Nat}

/-! ## Free numbers -/

/-- The number gives a name outside the list. -/
def Free (stem : String) (names : List String) (number : Nat) : Prop :=
  numbered stem number ∉ names

instance (stem : String) (names : List String) :
    DecidablePred (Free stem names) :=
  fun _ => inferInstanceAs (Decidable (_ ∉ _))

/-- Only finitely many numbers give names of the list, since different numbers
give different names. -/
theorem infinite_free (stem : String) (names : List String) :
    {number | Free stem names number}.Infinite := by
  have finite : (Set.preimage (numbered stem) {name | name ∈ names}).Finite :=
    (List.finite_toSet names).preimage (numbered_injective stem).injOn
  exact finite.infinite_compl

theorem exists_free_from (stem : String) (names : List String) (start : Nat) :
    ∃ number, start ≤ number ∧ Free stem names number := by
  obtain ⟨number, free, above⟩ := (infinite_free stem names).exists_gt start
  exact ⟨number, Nat.le_of_lt above, free⟩

/-- The first free number from a given one on. -/
def nextFree (stem : String) (names : List String) (start : Nat) : Nat :=
  Nat.find (exists_free_from stem names start)

/-- The free numbers in increasing order. -/
noncomputable def freeNumber (stem : String) (names : List String) :
    Nat → Nat :=
  Nat.nth (Free stem names)

theorem freeNumber_strictMono (stem : String) (names : List String) :
    StrictMono (freeNumber stem names) :=
  Nat.nth_strictMono (infinite_free stem names)

/-- The enumeration has all free numbers and no others. -/
theorem exists_freeNumber_eq_iff :
    (∃ index, freeNumber stem names index = number) ↔
      Free stem names number := by
  have range := Nat.range_nth_of_infinite (infinite_free stem names)
  exact Set.ext_iff.mp range number

/-- The counter goes through the enumeration: from a number on, the first free
one is that whose index is the number of those before. -/
theorem nextFree_eq_freeNumber (stem : String) (names : List String)
    (start : Nat) :
    nextFree stem names start =
      freeNumber stem names (Nat.count (Free stem names) start) := by
  obtain ⟨above, free⟩ := Nat.find_spec (exists_free_from stem names start)
  rw [freeNumber, Nat.nth_count_eq_sInf]
  apply le_antisymm
  · refine le_csInf ⟨_, free, above⟩ ?_
    rintro number ⟨free, above⟩
    exact Nat.find_min' _ ⟨above, free⟩
  · exact Nat.sInf_le ⟨free, above⟩

/-- Past the number that the counter found, one more free number lies behind. -/
theorem count_free_succ_nextFree (stem : String) (names : List String)
    (start : Nat) :
    Nat.count (Free stem names) (nextFree stem names start + 1) =
      Nat.count (Free stem names) start + 1 := by
  rw [nextFree_eq_freeNumber, freeNumber,
    Nat.count_nth_succ_of_infinite (infinite_free stem names)]

/-! ## Fresh names -/

/-- Of the numbered names, those of the list and all below a number are
taken. -/
def TakenBelow (stem : String) (names taken : List String) (start : Nat) :
    Prop :=
  ∀ number, numbered stem number ∈ taken ↔
    number < start ∨ numbered stem number ∈ names

theorem takenBelow_zero (stem : String) (names : List String) :
    TakenBelow stem names names 0 := by
  simp [TakenBelow]

/-- The search from zero among the taken names ends where the counter does. -/
theorem TakenBelow.fresh_eq (below : TakenBelow stem names taken start) :
    fresh stem taken = numbered stem (nextFree stem names start) := by
  obtain ⟨number, -, found, absent, smaller⟩ := fresh_eq_first_free stem taken
  have spec := Nat.find_spec (exists_free_from stem names start)
  rw [below number, not_or] at absent
  rw [found]
  congr 1
  apply Nat.le_antisymm
  · by_contra beyond
    have skipped := smaller _ (Nat.lt_of_not_le beyond)
    rcases (below _).mp skipped with less | named
    · exact absurd less (Nat.not_lt.mpr spec.1)
    · exact spec.2 named
  · exact Nat.find_min' _ ⟨Nat.le_of_not_lt absent.1, absent.2⟩

/-- With the new name taken, the counter goes on behind it. -/
theorem TakenBelow.cons (below : TakenBelow stem names taken start) :
    TakenBelow stem names
      (numbered stem (nextFree stem names start) :: taken)
      (nextFree stem names start + 1) := by
  intro number
  have spec := Nat.find_spec (exists_free_from stem names start)
  rw [List.mem_cons, (numbered_injective stem).eq_iff, below number]
  constructor
  · rintro (rfl | less | named)
    · exact Or.inl (Nat.lt_succ_self _)
    · exact Or.inl (Nat.lt_succ_of_lt (Nat.lt_of_lt_of_le less spec.1))
    · exact Or.inr named
  · rintro (upTo | named)
    · -- Between the start and the number found, every number gives a name of the
      -- list.
      rcases Nat.lt_or_eq_of_le (Nat.le_of_lt_succ upTo) with less | rfl
      · by_cases before : number < start
        · exact Or.inr (Or.inl before)
        · have skipped := Nat.find_min _ less
          rw [not_and, Free, not_not] at skipped
          exact Or.inr (Or.inr (skipped (Nat.le_of_not_lt before)))
      · exact Or.inl rfl
    · exact Or.inr (Or.inr named)

end AliasName

open AliasName

/-! ## Entries -/

/-- Entries with aliases for those that need one, numbered by a counter that goes
on behind the last number used. -/
def countedAliases (stem : String) (names : List String) :
    Nat → List Expr → List Expr
  | _, [] => []
  | start, entry :: entries =>
      if entry.needsAlias then
        let number := nextFree stem names start
        .aliased entry (numbered stem number) ::
          countedAliases stem names (number + 1) entries
      else entry :: countedAliases stem names start entries

/-- Deciding entry by entry with growing names gives what the counter gives. -/
theorem map_inner_decideEntries (stem : String) (names taken : List String)
    (entries : List Expr) :
    ∀ start, TakenBelow stem names taken start →
      (decideEntries stem taken entries).map Decision.inner =
        countedAliases stem names start entries := by
  fun_induction decideEntries stem taken entries with
  | case1 taken => exact fun _ _ => rfl
  | case2 taken entry entries named rest =>
      intro start below
      simp [countedAliases, Expr.needsAlias, named, Decision.inner,
        rest start below]
  | case3 taken entry entries unnamed simple rest =>
      intro start below
      simp [countedAliases, Expr.needsAlias, simple, Decision.inner,
        rest start below]
  | case4 taken entry entries unnamed complex aliasName rest =>
      intro start below
      have chosen : aliasName = numbered stem (nextFree stem names start) :=
        below.fresh_eq
      rw [chosen] at rest ⊢
      simp [countedAliases, Expr.needsAlias, unnamed, complex, Decision.inner,
        rest _ below.cons]

/-- An entry that the counter passes has the alias with the free number whose
index is the number of aliases before it. -/
theorem getElem?_countedAliases {stem : String} {names : List String}
    {start : Nat} (entries : List Expr) (position : Nat) :
    (countedAliases stem names start entries)[position]? =
      entries[position]?.map fun entry =>
        if entry.needsAlias then
          .aliased entry (numbered stem (freeNumber stem names
            (Nat.count (Free stem names) start +
              (entries.take position).countP Expr.needsAlias)))
        else entry := by
  induction entries generalizing start position with
  | nil => simp [countedAliases]
  | cons entry entries inductionHypothesis =>
      cases needed : entry.needsAlias with
      | true =>
          cases position with
          | zero => simp [countedAliases, needed, nextFree_eq_freeNumber]
          | succ position =>
              simp only [countedAliases, needed, if_true,
                List.getElem?_cons_succ, inductionHypothesis,
                count_free_succ_nextFree, List.take_succ_cons,
                List.countP_cons_of_pos, Nat.add_right_comm, Nat.add_assoc]
      | false =>
          cases position with
          | zero => simp [countedAliases, needed]
          | succ position =>
              simp [countedAliases, needed, inductionHypothesis]

/-- The rewritten nested query in closed form.  It keeps its scope and the number
of its entries, and so does the list for the enclosing query.  An entry that can
be referenced or is simple stays as it is.  The others get aliases in their
order, numbered by the increasing enumeration of the numbers whose names no entry
of the input has; so all aliases together are those of one counter that only
goes up. -/
theorem flatten_numbers_aliases_in_order {config : Config} {select : Select}
    {result : Flattened} (flattened : select.flatten config = .ok result) :
    let stem := config.aliasPrefix
    result.subquery.scope = select.scope ∧
    result.subquery.projection.length = select.projection.length ∧
    result.outerProjection.length = select.projection.length ∧
    (∃ number : Nat → Nat,
      StrictMono number ∧
      (∀ free, (∃ index, number index = free) ↔
        numbered stem free ∉ select.outerNames) ∧
      ∀ position,
        result.subquery.projection[position]? =
          select.projection[position]?.map fun entry : Expr =>
            if entry.isReferenceable = false ∧ entry.isSimple = false then
              .aliased entry (numbered stem
                (number ((select.projection.take position).countP
                  Expr.needsAlias)))
            else entry) ∧
    result.subquery.projection =
      countedAliases stem select.outerNames 0 select.projection := by
  intro stem
  have counted : result.subquery.projection =
      countedAliases stem select.outerNames 0 select.projection := by
    rw [Select.eq_carryOut_of_flatten flattened]
    exact map_inner_decideEntries stem select.outerNames select.outerNames
      select.projection 0 (takenBelow_zero stem select.outerNames)
  refine ⟨?_, ?_, ?_, ?_, counted⟩
  · rw [Select.eq_carryOut_of_flatten flattened]
    rfl
  · rw [Select.eq_carryOut_of_flatten flattened]
    simp [Select.carryOut]
  · rw [Select.eq_carryOut_of_flatten flattened]
    simp [Select.carryOut]
  · refine ⟨freeNumber stem select.outerNames, freeNumber_strictMono _ _,
      fun _ => exists_freeNumber_eq_iff, ?_⟩
    intro position
    rw [counted, getElem?_countedAliases]
    simp only [Expr.needsAlias, Bool.and_eq_true, Bool.not_eq_true',
      Nat.count_zero, Nat.zero_add]

/-- A nested query with three entries that need an alias and, later than the
first of them, two names that the stem `c1` leads to. -/
def skippedNumbers : Select :=
  .under "t0" ⟨2⟩
    [.other "a + b",
      .column ⟨⟨"Code", "c10"⟩, .physical "Customers" "c" ⟨1⟩⟩,
      .nullable (.parameter "p"),
      .constant (.integer 1),
      .aliased (.other "x * y") "c12",
      .other "count(*)"]

/-- The numbers used are one, three and four. -/
theorem skippedNumbers_in_order :
    ∃ result, skippedNumbers.flatten { aliasPrefix := "c1" } = .ok result ∧
      result.subquery.projection =
        [.aliased (.other "a + b") "c11",
          .column ⟨⟨"Code", "c10"⟩, .physical "Customers" "c" ⟨1⟩⟩,
          .aliased (.nullable (.parameter "p")) "c13",
          .constant (.integer 1),
          .aliased (.other "x * y") "c12",
          .aliased (.other "count(*)") "c14"] ∧
      ∃ number : Nat → Nat,
        StrictMono number ∧
        (∀ free, (∃ index, number index = free) ↔
          numbered "c1" free ∉ skippedNumbers.outerNames) ∧
        result.subquery.projection[5]? =
          some (.aliased (.other "count(*)") (numbered "c1" (number 2))) := by
  obtain ⟨result, flattened⟩ : ∃ result,
      skippedNumbers.flatten { aliasPrefix := "c1" } = .ok result := ⟨_, rfl⟩
  obtain ⟨-, -, -, ⟨number, increasing, enumerates, entries⟩, -⟩ :=
    flatten_numbers_aliases_in_order flattened
  refine ⟨result, flattened, ?_, number, increasing, enumerates, entries 5⟩
  cases flattened
  rfl

end ScopedQuery
