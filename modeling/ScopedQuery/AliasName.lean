/-
Module: ScopedQuery.AliasName
Purpose: Names for the entries of a projection that have none.
Trusted boundary: none
Main exports:
  AliasName.numbered, AliasName.fresh
-/

namespace ScopedQuery.AliasName

/-!
A generated name is a stem followed by a number.  The fresh name over a list of
taken names has the least number that gives a name outside the list.  Different
numbers give different names, so one of the first `taken.length + 1` numbers
does.
-/

/-- The stem followed by a number. -/
def numbered (stem : String) (number : Nat) : String :=
  stem ++ toString number

/-- The names among which the fresh one is looked for, in their order. -/
def candidates (stem : String) (count : Nat) : List String :=
  (List.range count).map (numbered stem)

/-- The first numbered name that is not taken. -/
def fresh (stem : String) (taken : List String) : String :=
  ((candidates stem (taken.length + 1)).find? fun name =>
    !taken.contains name).getD stem

end ScopedQuery.AliasName
