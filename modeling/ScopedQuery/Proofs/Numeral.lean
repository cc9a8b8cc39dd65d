/-
Module: ScopedQuery.Proofs.Numeral
Purpose: The texts that denote a thirty-two bit number, and why other texts are
  refused.
Trusted boundary: that of Text.Unsigned; the proofs add none
Main exports:
  Text.Denotes, Text.Refused, Text.readDigits_append,
  Text.readUInt32_eq_ok_iff, Text.readUInt32_eq_error_iff,
  Text.exists_refused_iff, Text.denotes_toString
-/
import Std.Data.String.ToNat
import ScopedQuery.Text.Unsigned

namespace ScopedQuery.Text

/-!
A numeral is one or more decimal digits after at most one plus sign.  It is read
from left to right, and the value of what has been read only grows.  So a numeral
that is too large is refused at some digit whatever follows it, and the reader
needs no more room than one digit beyond the limit.
-/

/-- Nothing but decimal digits. -/
def AllDigits (chars : List Char) : Prop :=
  ∀ char ∈ chars, char.isDigit = true

/-- What stands behind the plus sign, if there is one. -/
def withoutSign : List Char → List Char
  | '+' :: chars => chars
  | chars => chars

/-- The characters denote a number: behind at most one plus sign there are digits
only, and at least one. -/
structure Denotes (chars : List Char) (value : Nat) : Prop where
  nonempty : withoutSign chars ≠ []
  digits : AllDigits (withoutSign chars)
  value : Nat.ofDigitChars 10 (withoutSign chars) 0 = value

/-- How reading digits from the left ends, where a number has been read
already. -/
inductive DigitsRead (value : Nat) (chars : List Char) :
    Except NumberFault Nat → Prop where
  | ok (all : AllDigits chars)
      (small : Nat.ofDigitChars 10 chars value < UInt32.size) :
      DigitsRead value chars (.ok (Nat.ofDigitChars 10 chars value))
  | invalidDigit {digits rest : List Char} {char : Char}
      (split : chars = digits ++ char :: rest) (all : AllDigits digits)
      (small : Nat.ofDigitChars 10 digits value < UInt32.size)
      (foreign : char.isDigit = false) :
      DigitsRead value chars (.error .invalidDigit)
  | tooLarge {digits rest : List Char}
      (split : chars = digits ++ rest) (all : AllDigits digits)
      (large : UInt32.size ≤ Nat.ofDigitChars 10 digits value) :
      DigitsRead value chars (.error .tooLarge)

/-- Why characters denote no number below two to the thirty-second: there are
none, there is only a sign, or the first fault in the digits. -/
inductive Refused (chars : List Char) : NumberFault → Prop where
  | empty (nothing : chars = []) : Refused chars .empty
  | signOnly (alone : chars = ['+']) : Refused chars .invalidDigit
  | digits {fault : NumberFault}
      (read : DigitsRead 0 (withoutSign chars) (.error fault)) :
      Refused chars fault

/-! ## Reading digits -/

section Digits

variable {value : Nat} {digits rest : List Char}

/-- Further digits never make a number smaller. -/
theorem le_ofDigitChars (value : Nat) (digits : List Char) :
    value ≤ Nat.ofDigitChars 10 digits value := by
  rw [Nat.ofDigitChars_eq_ofDigitChars_zero]
  have grown : value ≤ 10 ^ digits.length * value :=
    Nat.le_mul_of_pos_left value (Nat.pow_pos (by decide))
  exact Nat.le_trans grown (Nat.le_add_right _ _)

theorem allDigits_cons {char : Char} {chars : List Char} :
    AllDigits (char :: chars) ↔ char.isDigit = true ∧ AllDigits chars :=
  List.forall_mem_cons

/-- Digits in range are read, and reading goes on behind them. -/
theorem readDigits_append (all : AllDigits digits)
    (small : Nat.ofDigitChars 10 digits value < UInt32.size) :
    readDigits value (digits ++ rest) =
      readDigits (Nat.ofDigitChars 10 digits value) rest := by
  induction digits generalizing value with
  | nil => rfl
  | cons char digits inductionHypothesis =>
      obtain ⟨digit, others⟩ := allDigits_cons.mp all
      rw [Nat.ofDigitChars_cons] at small ⊢
      have extended := Nat.lt_of_le_of_lt (le_ofDigitChars _ digits) small
      rw [Nat.mul_comm] at extended small ⊢
      rw [List.cons_append, readDigits, if_pos digit]
      simp only [if_pos extended]
      exact inductionHypothesis others small

/-- Digits that go out of range are refused, whatever follows them. -/
theorem readDigits_of_large (all : AllDigits digits)
    (small : value < UInt32.size)
    (large : UInt32.size ≤ Nat.ofDigitChars 10 digits value) :
    readDigits value (digits ++ rest) = .error .tooLarge := by
  induction digits generalizing value with
  | nil => exact absurd large (Nat.not_le_of_lt small)
  | cons char digits inductionHypothesis =>
      obtain ⟨digit, others⟩ := allDigits_cons.mp all
      rw [Nat.ofDigitChars_cons, Nat.mul_comm] at large
      rw [List.cons_append, readDigits, if_pos digit]
      by_cases extended :
          value * 10 + (char.toNat - '0'.toNat) < UInt32.size
      · simp only [if_pos extended]
        exact inductionHypothesis others extended large
      · simp only [if_neg extended]

/-- Reading ends in one of these ways. -/
theorem digitsRead_readDigits (small : value < UInt32.size)
    (chars : List Char) :
    DigitsRead value chars (readDigits value chars) := by
  induction chars generalizing value with
  | nil => exact .ok (by simp [AllDigits]) small
  | cons char chars inductionHypothesis =>
      rw [readDigits]
      by_cases digit : char.isDigit = true
      · rw [if_pos digit]
        have single : AllDigits [char] := by simpa [AllDigits] using digit
        have step : ∀ digits, Nat.ofDigitChars 10 (char :: digits) value =
            Nat.ofDigitChars 10 digits
              (value * 10 + (char.toNat - '0'.toNat)) := by
          intro digits
          rw [Nat.ofDigitChars_cons, Nat.mul_comm]
        by_cases extended :
            value * 10 + (char.toNat - '0'.toNat) < UInt32.size
        · simp only [if_pos extended]
          have later := inductionHypothesis extended
          generalize readDigits _ chars = outcome at later ⊢
          cases later with
          | ok all small =>
              rw [← step] at small ⊢
              exact .ok (allDigits_cons.mpr ⟨digit, all⟩) small
          | invalidDigit split all small foreign =>
              rw [← step] at small
              exact .invalidDigit (by rw [split, List.cons_append])
                (allDigits_cons.mpr ⟨digit, all⟩) small foreign
          | tooLarge split all large =>
              rw [← step] at large
              exact .tooLarge (by rw [split, List.cons_append])
                (allDigits_cons.mpr ⟨digit, all⟩) large
        · simp only [if_neg extended]
          refine .tooLarge (List.singleton_append).symm single ?_
          rw [step]
          exact Nat.le_of_not_lt extended
      · rw [if_neg digit]
        have foreign : char.isDigit = false := by simpa using digit
        have none : AllDigits [] := by simp [AllDigits]
        exact .invalidDigit (List.nil_append _).symm none small foreign

/-- Reading digits ends in the way that they tell, and in no other. -/
theorem readDigits_eq_iff (small : value < UInt32.size) {chars : List Char}
    {outcome : Except NumberFault Nat} :
    readDigits value chars = outcome ↔ DigitsRead value chars outcome := by
  constructor
  · intro read
    rw [← read]
    exact digitsRead_readDigits small chars
  · intro read
    cases read with
    | ok all inRange =>
        have whole :
            readDigits value (chars ++ []) =
              readDigits (Nat.ofDigitChars 10 chars value) [] :=
          readDigits_append all inRange
        rwa [List.append_nil] at whole
    | invalidDigit split all inRange foreign =>
        rw [split, readDigits_append all inRange]
        simp [readDigits, foreign]
    | tooLarge split all large =>
        rw [split]
        exact readDigits_of_large all small large

end Digits

/-! ## Reading numbers -/

variable {text : String}

/-- A sign is skipped if anything follows it, and the digits are read from
zero. -/
theorem readUInt32_of_nonempty (nonempty : withoutSign text.toList ≠ []) :
    readUInt32 text =
      (readDigits 0 (withoutSign text.toList)).map UInt32.ofNat := by
  rw [readUInt32]
  split
  · next nothing => simp [withoutSign, nothing] at nonempty
  · next alone => simp [withoutSign, alone] at nonempty
  · next digits signed =>
      rw [signed]
      rfl
  · next notEmpty notAlone unsigned =>
      congr 2
      unfold withoutSign
      split
      · next chars signed => exact absurd signed (unsigned chars)
      · rfl

/-- Nothing but a sign is left where no digits are. -/
theorem withoutSign_eq_nil_iff {chars : List Char} :
    withoutSign chars = [] ↔ chars = [] ∨ chars = ['+'] := by
  unfold withoutSign
  split
  · simp
  · next unsigned =>
      constructor
      · exact Or.inl
      · intro either
        rcases either with nothing | alone
        · exact nothing
        · exact absurd alone (unsigned [])

/-- The texts that are read are those that denote a number in range. -/
theorem readUInt32_eq_ok_iff {value : UInt32} :
    readUInt32 text = .ok value ↔ Denotes text.toList value.toNat := by
  by_cases nonempty : withoutSign text.toList = []
  · constructor
    · intro read
      rcases withoutSign_eq_nil_iff.mp nonempty with nothing | alone
      · simp [readUInt32, nothing] at read
      · simp [readUInt32, alone] at read
    · intro denotes
      exact absurd nonempty denotes.nonempty
  · rw [readUInt32_of_nonempty nonempty]
    constructor
    · intro read
      cases digits : readDigits 0 (withoutSign text.toList) with
      | error fault =>
          rw [digits] at read
          cases read
      | ok number =>
          rw [digits] at read
          cases read
          cases (readDigits_eq_iff (by decide)).mp digits with
          | ok all small =>
              exact ⟨nonempty, all, (UInt32.toNat_ofNat_of_lt small).symm⟩
    · intro denotes
      have small : Nat.ofDigitChars 10 (withoutSign text.toList) 0 <
          UInt32.size := by
        rw [denotes.value]
        exact value.toNat_lt
      have read := (readDigits_eq_iff (by decide)).mpr
        (.ok denotes.digits small)
      rw [read, denotes.value]
      exact congrArg Except.ok UInt32.ofNat_toNat

/-- The other texts are refused, each for its first fault. -/
theorem readUInt32_eq_error_iff {fault : NumberFault} :
    readUInt32 text = .error fault ↔ Refused text.toList fault := by
  have noFault : ¬ DigitsRead 0 [] (.error fault) := by
    intro read
    cases (readDigits_eq_iff (by decide)).mpr read
  by_cases nonempty : withoutSign text.toList = []
  · rcases withoutSign_eq_nil_iff.mp nonempty with nothing | alone
    · have read : readUInt32 text = .error .empty := by
        simp [readUInt32, nothing]
      rw [read]
      constructor
      · intro same
        cases same
        exact .empty nothing
      · intro refused
        cases refused with
        | empty => rfl
        | signOnly alone => simp [nothing] at alone
        | digits read => exact absurd (nonempty ▸ read) noFault
    · have read : readUInt32 text = .error .invalidDigit := by
        simp [readUInt32, alone]
      rw [read]
      constructor
      · intro same
        cases same
        exact .signOnly alone
      · intro refused
        cases refused with
        | empty nothing => simp [alone] at nothing
        | signOnly => rfl
        | digits read => exact absurd (nonempty ▸ read) noFault
  · rw [readUInt32_of_nonempty nonempty]
    have mapped : (readDigits 0 (withoutSign text.toList)).map UInt32.ofNat =
        .error fault ↔
          readDigits 0 (withoutSign text.toList) = .error fault := by
      cases readDigits 0 (withoutSign text.toList) with
      | error other => simp [Except.map]
      | ok number => simp [Except.map]
    rw [mapped, readDigits_eq_iff (by decide)]
    constructor
    · exact .digits
    · intro refused
      cases refused with
      | empty nothing => simp [nothing, withoutSign] at nonempty
      | signOnly alone => simp [alone, withoutSign] at nonempty
      | digits read => exact read

/-- A text is refused exactly when it denotes no number in range. -/
theorem exists_refused_iff :
    (∃ fault, Refused text.toList fault) ↔
      ∀ value < UInt32.size, ¬ Denotes text.toList value := by
  constructor
  · intro refused value small denotes
    obtain ⟨fault, refused⟩ := refused
    have inRange : (UInt32.ofNat value).toNat = value :=
      UInt32.toNat_ofNat_of_lt small
    rw [← inRange] at denotes
    have read := readUInt32_eq_ok_iff.mpr denotes
    rw [readUInt32_eq_error_iff.mpr refused] at read
    cases read
  · intro unnumbered
    cases read : readUInt32 text with
    | ok value =>
        exact absurd (readUInt32_eq_ok_iff.mp read)
          (unnumbered _ value.toNat_lt)
    | error fault => exact ⟨fault, readUInt32_eq_error_iff.mp read⟩

/-! ## Decimal numbers as they are written -/

/-- Digits have no sign before them. -/
theorem withoutSign_of_allDigits {chars : List Char} (all : AllDigits chars) :
    withoutSign chars = chars := by
  unfold withoutSign
  split
  · next rest =>
      have sign : ('+' : Char).isDigit = true :=
        all '+' List.mem_cons_self
      exact absurd sign (by decide)
  · rfl

/-- The text of a number consists of its decimal digits. -/
theorem toList_toString (number : Nat) :
    (toString number).toList = Nat.toDigits 10 number := by
  rw [Nat.toString_eq_repr, Nat.toList_repr]

/-- A number is written in digits. -/
theorem allDigits_toString (number : Nat) :
    AllDigits (toString number).toList := by
  intro char member
  rw [toList_toString] at member
  exact Nat.isDigit_of_mem_toDigits (by decide) (by decide) member

/-- What is written for a number denotes the number. -/
theorem denotes_toString (number : Nat) :
    Denotes (toString number).toList number := by
  have digits := allDigits_toString number
  have unsigned := withoutSign_of_allDigits digits
  refine ⟨?_, ?_, ?_⟩
  · rw [unsigned, toList_toString]
    exact Nat.toDigits_ne_nil
  · rw [unsigned]
    exact digits
  · rw [unsigned, toList_toString]
    exact Nat.ofDigitChars_ten_toDigits

end ScopedQuery.Text
