/-
Module: ScopedQuery.Proofs.AliasName
Purpose: The fresh name over a list of taken names is the first numbered name
  that is free.
Trusted boundary: none
Main exports:
  AliasName.numbered_injective, AliasName.exists_free_number,
  AliasName.fresh_eq_first_free, AliasName.fresh_not_mem
-/
import Mathlib.Data.List.Perm.Subperm
import Mathlib.Data.List.Nodup
import Std.Data.String.ToNat
import ScopedQuery.AliasName

namespace ScopedQuery.AliasName

/-- Different numbers give different names, whatever the stem ends in. -/
theorem numbered_injective (stem : String) :
    Function.Injective (numbered stem) := by
  intro left right same
  have characters :
      stem.toList ++ (toString left).toList =
        stem.toList ++ (toString right).toList := by
    simpa [numbered] using congrArg String.toList same
  have digits : toString left = toString right :=
    String.toList_inj.mp (List.append_cancel_left characters)
  exact Nat.repr_injective digits

/-- No candidate occurs twice. -/
theorem candidates_nodup (stem : String) (count : Nat) :
    (candidates stem count).Nodup :=
  List.nodup_range.map (numbered_injective stem)

/-- A list that takes every candidate has at least as many names. -/
theorem count_le_length_of_candidates_subset {stem : String} {count : Nat}
    {taken : List String} (all : candidates stem count ⊆ taken) :
    count ≤ taken.length := by
  have bound := ((candidates_nodup stem count).subperm all).length_le
  simpa [candidates] using bound

/-- One of the first `taken.length + 1` numbers gives a free name. -/
theorem exists_free_number (stem : String) (taken : List String) :
    ∃ number, number ≤ taken.length ∧ numbered stem number ∉ taken := by
  by_contra none
  have all : candidates stem (taken.length + 1) ⊆ taken := by
    intro name member
    obtain ⟨number, bound, rfl⟩ := List.mem_map.mp member
    by_contra free
    exact none ⟨number, Nat.lt_succ_iff.mp (List.mem_range.mp bound), free⟩
  have := count_le_length_of_candidates_subset all
  omega

/-- The search finds the name of the least free number.  It never comes to its
end, where the bare stem would be the answer. -/
theorem fresh_eq_first_free (stem : String) (taken : List String) :
    ∃ number, number ≤ taken.length ∧
      fresh stem taken = numbered stem number ∧
      numbered stem number ∉ taken ∧
      ∀ smaller < number, numbered stem smaller ∈ taken := by
  obtain ⟨free, bound, absent⟩ := exists_free_number stem taken
  have found : ((List.range (taken.length + 1)).find? fun number =>
      !taken.contains (numbered stem number)).isSome := by
    rw [List.find?_isSome]
    exact ⟨free, List.mem_range.mpr (Nat.lt_succ_of_le bound),
      by simpa using absent⟩
  obtain ⟨number, first⟩ := Option.isSome_iff_exists.mp found
  have spec := List.find?_range_eq_some.mp first
  refine ⟨number, ?_, ?_, ?_, ?_⟩
  · exact Nat.lt_succ_iff.mp (List.mem_range.mp spec.2.1)
  · simp only [fresh, candidates, List.find?_map, Function.comp_def, first,
      Option.map_some, Option.getD_some]
  · simpa using spec.1
  · intro smaller less
    simpa using spec.2.2 smaller less

/-- The fresh name is not taken. -/
theorem fresh_not_mem (stem : String) (taken : List String) :
    fresh stem taken ∉ taken := by
  obtain ⟨number, -, equal, absent, -⟩ := fresh_eq_first_free stem taken
  rw [equal]
  exact absent

end ScopedQuery.AliasName
