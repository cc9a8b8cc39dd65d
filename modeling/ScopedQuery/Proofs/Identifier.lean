/-
Module: ScopedQuery.Proofs.Identifier
Purpose: Identifiers as a regular language, which is closed under the numbering
  of names.
Trusted boundary: none
Main exports:
  Identifier.letter, Identifier.digit, Identifier.words,
  Config.isIdentifier_iff, AliasName.numbered_mem_words
-/
import Mathlib
import ScopedQuery.AliasName
import ScopedQuery.Config.Basic

namespace ScopedQuery

open scoped Computability

/-!
An identifier is a letter or underscore followed by any run of letters,
underscores and digits.  A number adds digits at the end, and a run followed by
digits is again a run: this is the law `a∗ * a∗ = a∗` of regular languages.
-/

namespace Identifier

/-- The words that are one character of a range. -/
def range (first last : Char) : Language Char :=
  {word | ∃ char, word = [char] ∧ first ≤ char ∧ char ≤ last}

/-- A letter without accents, or an underscore. -/
def letter : Language Char :=
  range 'A' 'Z' + range 'a' 'z' + range '_' '_'

/-- A decimal digit. -/
def digit : Language Char :=
  range '0' '9'

/-- The identifiers: `[A-Za-z_][A-Za-z0-9_]*`. -/
def words : Language Char :=
  letter * (letter + digit)∗

/-! ## Single characters -/

theorem mem_range {first last : Char} {word : List Char} :
    word ∈ range first last ↔
      ∃ char, word = [char] ∧ first ≤ char ∧ char ≤ last :=
  Iff.rfl

theorem mem_letter {word : List Char} :
    word ∈ letter ↔
      ∃ char, word = [char] ∧ Config.isIdentifierStart char = true := by
  simp only [letter, Language.mem_add, mem_range, ← exists_or, ← and_or_left]
  refine exists_congr fun char => and_congr_right fun _ => ?_
  simp [Config.isIdentifierStart, Char.isAlpha, Char.isUpper, Char.isLower,
    Char.le_def, ← UInt32.toNat_inj, Char.ext_iff, UInt32.le_iff_toNat_le]
  omega

theorem mem_digit {word : List Char} :
    word ∈ digit ↔ ∃ char, word = [char] ∧ char.isDigit = true := by
  simp [digit, mem_range, Char.isDigit, Char.le_def]

theorem mem_letter_add_digit {word : List Char} :
    word ∈ letter + digit ↔
      ∃ char, word = [char] ∧ Config.isIdentifierRest char = true := by
  simp only [Language.mem_add, mem_letter, mem_digit, ← exists_or,
    ← and_or_left]
  refine exists_congr fun char => and_congr_right fun _ => ?_
  simp [Config.isIdentifierStart, Config.isIdentifierRest, Char.isAlphanum,
    or_assoc, or_comm, or_left_comm]

/-- A run over a class of characters has all its characters in the class. -/
theorem mem_kstar_iff_forall {characters : Language Char} {test : Char → Bool}
    (single : ∀ word, word ∈ characters ↔
      ∃ char, word = [char] ∧ test char = true) (word : List Char) :
    word ∈ characters∗ ↔ ∀ char ∈ word, test char = true := by
  rw [Language.mem_kstar]
  constructor
  · rintro ⟨pieces, rfl, inside⟩ char member
    obtain ⟨piece, isPiece, here⟩ := List.mem_flatten.mp member
    obtain ⟨only, rfl, passes⟩ := (single piece).mp (inside piece isPiece)
    rw [List.mem_singleton.mp here]
    exact passes
  · intro all
    refine ⟨word.map fun char => [char], ?_, ?_⟩
    · rw [← List.flatMap_def, List.flatMap_singleton']
    · intro piece isPiece
      obtain ⟨char, member, rfl⟩ := List.mem_map.mp isPiece
      exact (single _).mpr ⟨char, rfl, all char member⟩

end Identifier

/-- The rule for the alias prefix admits the identifiers and nothing else. -/
theorem Config.isIdentifier_iff (text : String) :
    isIdentifier text = true ↔ text.toList ∈ Identifier.words := by
  rw [Identifier.words, Language.mem_mul, isIdentifier]
  cases text.toList with
  | nil =>
      simp only [Bool.false_eq_true, false_iff, not_exists, not_and]
      intro first isFirst rest _ same
      obtain ⟨char, rfl, -⟩ := Identifier.mem_letter.mp isFirst
      cases same
  | cons first rest =>
      simp only [Bool.and_eq_true, List.all_eq_true]
      constructor
      · rintro ⟨start, all⟩
        refine ⟨[first], Identifier.mem_letter.mpr ⟨first, rfl, start⟩,
          rest, ?_, rfl⟩
        exact (Identifier.mem_kstar_iff_forall
          (fun _ => Identifier.mem_letter_add_digit) rest).mpr all
      · rintro ⟨head, isHead, tail, isTail, same⟩
        obtain ⟨char, rfl, start⟩ := Identifier.mem_letter.mp isHead
        cases same
        exact ⟨start, (Identifier.mem_kstar_iff_forall
          (fun _ => Identifier.mem_letter_add_digit) tail).mp isTail⟩

namespace AliasName

/-- A number is written in digits. -/
theorem toList_toString_mem_kstar_digit (number : Nat) :
    (toString number).toList ∈ Identifier.digit∗ := by
  rw [Identifier.mem_kstar_iff_forall fun _ => Identifier.mem_digit]
  intro char member
  rw [Nat.toString_eq_repr, Nat.toList_repr] at member
  exact Nat.isDigit_of_mem_toDigits (by decide) (by decide) member

/-- A numbered identifier is an identifier. -/
theorem numbered_mem_words {stem : String}
    (identifier : stem.toList ∈ Identifier.words) (number : Nat) :
    (numbered stem number).toList ∈ Identifier.words := by
  have digits : Identifier.digit∗ ≤ (Identifier.letter + Identifier.digit)∗ :=
    kstar_mono le_add_self
  have closed : Identifier.words * Identifier.digit∗ ≤ Identifier.words := by
    calc Identifier.words * Identifier.digit∗
        ≤ Identifier.words * (Identifier.letter + Identifier.digit)∗ :=
          mul_le_mul_right digits Identifier.words
      _ = Identifier.words := by
          rw [Identifier.words, mul_assoc, kstar_mul_kstar]
  apply closed
  rw [numbered, String.toList_append]
  exact Language.append_mem_mul identifier
    (toList_toString_mem_kstar_digit number)

end AliasName

end ScopedQuery
