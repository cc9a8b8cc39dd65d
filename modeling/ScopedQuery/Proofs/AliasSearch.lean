/-
Module: ScopedQuery.Proofs.AliasSearch
Purpose: A search that tries one number after another, with no bound of its own,
  ends with the fresh name.
Trusted boundary: none
Main exports:
  AliasName.number_le_card, AliasName.SearchEnds,
  AliasName.searchEnds_of_free, AliasName.SearchEnds.unique,
  AliasName.search_finds_least_free_name
-/
import Mathlib.Algebra.Group.Nat.Defs
import Mathlib.Data.Finset.Card
import ScopedQuery.Proofs.AliasName

namespace ScopedQuery.AliasName

/-!
The fresh name is looked for among a fixed count of candidates.  A search without
such a count tries numbers until one gives a free name, and nothing in it gets
smaller.  That it ends is a matter of counting: the numbers tried so far gave as
many different names, all of them taken, so there are no more of them than names.
A list may have a name several times; what counts is how many different names it
has.
-/

variable {stem : String} {taken : List String}

/-- If all smaller numbers give taken names, a number is at most how many names are
taken. -/
theorem number_le_card {number : Nat}
    (smaller : ∀ less < number, numbered stem less ∈ taken) :
    number ≤ taken.toFinset.card := by
  have all : (candidates stem number).toFinset ⊆ taken.toFinset := by
    intro name tried
    obtain ⟨less, bound, rfl⟩ := List.mem_map.mp (List.mem_toFinset.mp tried)
    exact List.mem_toFinset.mpr (smaller less (List.mem_range.mp bound))
  have tried : (candidates stem number).toFinset.card = number := by
    rw [List.toFinset_card_of_nodup (candidates_nodup stem number), candidates,
      List.length_map, List.length_range]
  rw [← tried]
  exact Finset.card_le_card all

/-- A numbered name is never the bare stem, since every number has a digit. -/
theorem numbered_ne_stem (stem : String) (number : Nat) :
    numbered stem number ≠ stem := by
  intro same
  have characters : stem.toList ++ (toString number).toList = stem.toList := by
    simpa only [numbered, String.toList_append] using congrArg String.toList same
  have none : (toString number).toList = [] :=
    List.append_right_eq_self.mp characters
  exact Nat.repr_ne_empty (String.toList_eq_nil_iff.mp none)

/-- The candidates have a free name among them, and it is the fresh name. -/
theorem find?_candidates (stem : String) (taken : List String) :
    (candidates stem (taken.length + 1)).find?
      (fun name => !taken.contains name) = some (fresh stem taken) := by
  obtain ⟨number, bound, absent⟩ := exists_free_number stem taken
  have candidate : numbered stem number ∈
      candidates stem (taken.length + 1) :=
    List.mem_map_of_mem (List.mem_range.mpr (Nat.lt_succ_of_le bound))
  have found : (candidates stem (taken.length + 1)).find?
      (fun name => !taken.contains name) ≠ none := by
    intro none
    have present := List.find?_eq_none.mp none _ candidate
    simp [absent] at present
  exact (Option.getD_of_ne_none found stem).symm

/-! ## Searching with a counter -/

/-- The search from a counter on ends after so many trials with a name.  A trial ends
it with the counter's name if this is free, and otherwise the counter goes up.  The
counter has sixty-four bits: behind its last number it starts again at zero. -/
inductive SearchEnds (stem : String) (taken : List String) :
    UInt64 → Nat → String → Prop where
  | free {counter : UInt64} (absent : numbered stem counter.toNat ∉ taken) :
      SearchEnds stem taken counter 1 (numbered stem counter.toNat)
  | next {counter : UInt64} {trials : Nat} {name : String}
      (present : numbered stem counter.toNat ∈ taken)
      (rest : SearchEnds stem taken (counter + 1) trials name) :
      SearchEnds stem taken counter (trials + 1) name

/-- From a counter that is not beyond it, the search comes to the first free number,
as long as the counter has that number. -/
theorem searchEnds_of_free {number : Nat} (fits : number < 2 ^ 64)
    (absent : numbered stem number ∉ taken)
    (smaller : ∀ less < number, numbered stem less ∈ taken)
    (distance : Nat) (counter : UInt64)
    (ahead : counter.toNat + distance = number) :
    SearchEnds stem taken counter (distance + 1) (numbered stem number) := by
  induction distance generalizing counter with
  | zero =>
      obtain rfl : counter.toNat = number := ahead
      exact .free absent
  | succ distance inductionHypothesis =>
      -- A number that fits is still ahead, so the counter does not start again here.
      have up : (counter + 1).toNat = counter.toNat + 1 := by
        rw [UInt64.toNat_add, UInt64.toNat_one]
        exact Nat.mod_eq_of_lt (by omega)
      have rest := inductionHypothesis (counter + 1) (by omega)
      exact .next (smaller counter.toNat (by omega)) rest

/-- A search ends in one way only. -/
theorem SearchEnds.unique {counter : UInt64} {trials others : Nat}
    {name other : String} (one : SearchEnds stem taken counter trials name)
    (two : SearchEnds stem taken counter others other) :
    trials = others ∧ name = other := by
  induction one generalizing others other with
  | free absent =>
      cases two with
      | free _ => exact ⟨rfl, rfl⟩
      | next present _ => exact absurd present absent
  | next present rest inductionHypothesis =>
      cases two with
      | free absent => exact absurd present absent
      | next _ further =>
          obtain ⟨count, names⟩ := inductionHypothesis further
          exact ⟨congrArg Nat.succ count, names⟩

/-- The least free number is always found.  It is at most how many names are taken, so
the candidates never run out, and the bare stem is never the answer.  While fewer
than `2 ^ 64` names are taken, a search with a counter of sixty-four bits and no bound
on its trials ends with the same name, and in no other way. -/
theorem search_finds_least_free_name (stem : String) (taken : List String)
    (fewer : taken.toFinset.card < 2 ^ 64) :
    ∃ number, number ≤ taken.toFinset.card ∧
      fresh stem taken = numbered stem number ∧
      numbered stem number ∉ taken ∧
      (∀ smaller < number, numbered stem smaller ∈ taken) ∧
      (candidates stem (taken.length + 1)).find?
        (fun name => !taken.contains name) = some (fresh stem taken) ∧
      fresh stem taken ≠ stem ∧
      ∀ trials name, SearchEnds stem taken 0 trials name ↔
        trials = number + 1 ∧ name = fresh stem taken := by
  obtain ⟨number, bound, equal, absent, smaller⟩ :=
    fresh_eq_first_free stem taken
  have few : number ≤ taken.toFinset.card := number_le_card smaller
  have ends : SearchEnds stem taken 0 (number + 1) (numbered stem number) :=
    searchEnds_of_free (Nat.lt_of_le_of_lt few fewer) absent smaller number 0
      (Nat.zero_add number)
  refine ⟨number, few, equal, absent, smaller,
    find?_candidates stem taken, ?_, ?_⟩
  · rw [equal]
    exact numbered_ne_stem stem number
  · intro trials name
    rw [equal]
    constructor
    · intro found
      exact found.unique ends
    · rintro ⟨rfl, rfl⟩
      exact ends

/-- Two names that the stem `c1` leads to, one of them twice, and names that only look
like such names. -/
def lookAlikes : List String :=
  ["c1", "c11", "c012", "c10", "x12", "c11", "c112"]

/-- Two numbers are taken, and the search ends at its third trial. -/
theorem lookAlikes_searched :
    lookAlikes.toFinset.card < 2 ^ 64 ∧ fresh "c1" lookAlikes = "c12" ∧
      SearchEnds "c1" lookAlikes 0 3 "c12" := by
  have fewer : lookAlikes.toFinset.card < 2 ^ 64 :=
    Nat.lt_of_le_of_lt (List.toFinset_card_le lookAlikes) (by decide)
  have named : fresh "c1" lookAlikes = numbered "c1" 2 := by decide
  obtain ⟨number, -, equal, -, -, -, -, ends⟩ :=
    search_finds_least_free_name "c1" lookAlikes fewer
  obtain rfl : number = 2 :=
    numbered_injective "c1" (equal.symm.trans named)
  exact ⟨fewer, named, (ends 3 "c12").mpr ⟨rfl, named.symm⟩⟩

end ScopedQuery.AliasName
