/-
Module: ScopedQuery.Proofs.PlainWords
Purpose: A word of characters that mean nothing in YAML is read as it stands.
Trusted boundary: that of the YAML modules; the proofs add none
Main exports:
  Yaml.Inert, Yaml.Solid, Yaml.IsWord, Yaml.takeWord_append,
  Yaml.readPlain_word, Yaml.readPlain_word_break
-/
import ScopedQuery.Yaml.Plain

namespace ScopedQuery.Yaml

/-!
Most of what a plain scalar may not hold concerns single characters: blanks,
breaks, indicators, and the points and dashes that marks of a document consist of.
A word without any of them needs no look at what stands around it.  It ends where
the text ends, at a break, or at a colon with a blank behind it.
-/

/-! ## Characters -/

/-- A character that means nothing by itself, wherever it stands. -/
structure Inert (char : Char) : Prop where
  allowed : isAllowed char = true
  unspaced : isSpace char = false
  unmarked : isIndicator char = false
  noPoint : char ≠ '.'
  noOrderMark : char ≠ '\ufeff'

/-- A token begins here, or the text ends: no blank, break or comment follows, and
no mark of the byte order. -/
structure Solid (rest : List Char) : Prop where
  unspaced : startsWith isSpace rest = false
  uncommented : startsWith (· == '#') rest = false
  unordered : startsWith (· == '\ufeff') rest = false

/-- At least one character, and each of them means nothing by itself. -/
structure IsWord (word : List Char) : Prop where
  nonempty : word ≠ []
  inert : ∀ char ∈ word, Inert char

/-- What follows here belongs to no word. -/
def EndsWord (rest : List Char) : Prop :=
  takeWord false rest = some ([], rest)

section Characters

variable {char : Char} {rest word : List Char} {test : Char → Bool}

/-! ### Beginnings -/

theorem takeWhile_of_not_startsWith (fails : startsWith test rest = false) :
    rest.takeWhile test = [] := by
  cases rest with
  | nil => rfl
  | cons char chars =>
      exact List.takeWhile_cons_of_neg (ne_true_of_eq_false fails)

theorem dropWhile_of_not_startsWith (fails : startsWith test rest = false) :
    rest.dropWhile test = rest := by
  cases rest with
  | nil => rfl
  | cons char chars =>
      exact List.dropWhile_cons_of_neg (ne_true_of_eq_false fails)

theorem solid_nil : Solid [] := ⟨rfl, rfl, rfl⟩

theorem solid_colon : Solid (':' :: rest) := ⟨rfl, rfl, rfl⟩

theorem Solid.unblank (solid : Solid rest) :
    startsWith isBlank rest = false := by
  have unspaced := solid.unspaced
  cases rest with
  | nil => rfl
  | cons char chars => exact (Bool.or_eq_false_iff.mp unspaced).1

/-- Whether or not tabs are skipped, nothing is. -/
theorem Solid.unindented (solid : Solid rest) (tabs : Bool) :
    startsWith (fun char => char == ' ' || (char == '\t' && tabs)) rest =
      false := by
  have unblank := solid.unblank
  cases rest with
  | nil => rfl
  | cons char chars =>
      rcases Bool.or_eq_false_iff.mp unblank with ⟨noSpace, noTab⟩
      simp [startsWith, noSpace, noTab]

theorem Inert.ne_of_isIndicator {mark : Char} (inert : Inert char)
    (indicator : isIndicator mark = true) : char ≠ mark := by
  intro same
  rw [← same, inert.unmarked] at indicator
  cases indicator

theorem Inert.solid (inert : Inert char) : Solid (char :: rest) where
  unspaced := inert.unspaced
  uncommented := beq_eq_false_iff_ne.mpr (inert.ne_of_isIndicator rfl)
  unordered := beq_eq_false_iff_ne.mpr inert.noOrderMark

/-! ### Words -/

theorem IsWord.exists_cons (isWord : IsWord word) :
    ∃ first others, word = first :: others ∧ Inert first := by
  rcases List.exists_cons_of_ne_nil isWord.nonempty with ⟨first, others, rfl⟩
  exact ⟨first, others, rfl, isWord.inert first List.mem_cons_self⟩

theorem IsWord.solid (isWord : IsWord word) : Solid word := by
  rcases isWord.exists_cons with ⟨first, others, rfl, inert⟩
  exact inert.solid

theorem IsWord.solid_append (isWord : IsWord word) : Solid (word ++ rest) := by
  rcases isWord.exists_cons with ⟨first, others, rfl, inert⟩
  exact inert.solid

theorem IsWord.all_isAllowed (isWord : IsWord word) :
    word.all isAllowed = true := by
  rw [List.all_eq_true]
  intro char member
  exact (isWord.inert char member).allowed

theorem endsWord_nil : EndsWord [] := rfl

theorem endsWord_break : EndsWord ('\n' :: rest) := rfl

theorem endsWord_colon : EndsWord (':' :: ' ' :: rest) := rfl

/-- A word goes as far as its characters mean nothing. -/
theorem takeWord_append (inert : ∀ char ∈ word, Inert char)
    (ends : EndsWord rest) :
    takeWord false (word ++ rest) = some (word, rest) := by
  induction word with
  | nil => exact ends
  | cons char chars inductionHypothesis =>
      rcases List.forall_mem_cons.mp inert with ⟨here, later⟩
      have uncoloned : (char == ':') = false :=
        beq_eq_false_iff_ne.mpr (here.ne_of_isIndicator rfl)
      simp [takeWord, here.unspaced, uncoloned, inductionHypothesis later]

end Characters

/-! ## Positions -/

namespace Cursor

variable {cursor : Cursor} {word rest : List Char}

theorem upTo_of_eq_append (here : cursor.rest = word ++ rest) :
    cursor.upTo rest =
      ⟨rest, cursor.offset + byteCount word, cursor.line,
        cursor.column + word.length⟩ := by
  simp [upTo, advance, here]

theorem upTo_self (cursor : Cursor) : cursor.upTo cursor.rest = cursor := by
  simp [upTo, advance, byteCount]

theorem skipWhile_of_not_startsWith {test : Char → Bool}
    (fails : startsWith test cursor.rest = false) :
    cursor.skipWhile test = cursor := by
  rw [skipWhile, dropWhile_of_not_startsWith fails, upTo_self]

theorem takeBreak?_of_solid (solid : Solid cursor.rest) :
    cursor.takeBreak? = none := by
  have unspaced := solid.unspaced
  unfold takeBreak?
  split
  · next heq =>
      rw [heq] at unspaced
      cases unspaced
  · next heq =>
      rw [heq] at unspaced
      have unbroken := (Bool.or_eq_false_iff.mp unspaced).2
      simp [unbroken]
  · rfl

theorem atLineMark_eq_false {char mark : Char}
    (here : cursor.rest = char :: rest) (differ : char ≠ mark) :
    cursor.atLineMark mark = false := by
  rw [atLineMark, here]
  split
  · next first second third others same =>
      cases same
      simp [differ]
  · exact Bool.and_false _

/-- A word is no mark of a document, and begins none. -/
theorem atDocumentMark_of_isWord (isWord : IsWord word)
    (here : cursor.rest = word ++ rest) : cursor.atDocumentMark = false := by
  rcases isWord.exists_cons with ⟨first, others, rfl, inert⟩
  rw [atDocumentMark,
    atLineMark_eq_false here (inert.ne_of_isIndicator rfl),
    atLineMark_eq_false here inert.noPoint, Bool.or_self]

end Cursor

/-! ## Scalars -/

variable {cursor : Cursor} {word rest : List Char} {least : Nat}

theorem readBreaks_of_solid (solid : Solid cursor.rest) :
    readBreaks least cursor = some ([], cursor) := by
  have stays := Cursor.skipWhile_of_not_startsWith solid.unblank
  rw [readBreaks, takeWhile_of_not_startsWith solid.unblank, List.take_nil,
    stays]
  split
  · next more => cases more
  · split
    · next taken =>
        rw [Cursor.takeBreak?_of_solid solid] at taken
        cases taken
    · rfl

/-- A single break leads to the beginning of the next line. -/
theorem readGap_break (solid : Solid rest) (here : cursor.rest = '\n' :: rest) :
    readGap least cursor =
      some ⟨[], ['\n'], ⟨rest, cursor.offset + 1, cursor.line + 1, 0⟩⟩ := by
  have stays : cursor.skipWhile isBlank = cursor := by
    apply Cursor.skipWhile_of_not_startsWith
    rw [here]
    rfl
  have taken :
      cursor.takeBreak? =
        some ('\n', ⟨rest, cursor.offset + 1, cursor.line + 1, 0⟩) := by
    rw [Cursor.takeBreak?, here]
    rfl
  have breaks :
      readBreaks least ⟨rest, cursor.offset + 1, cursor.line + 1, 0⟩ =
        some ([], ⟨rest, cursor.offset + 1, cursor.line + 1, 0⟩) :=
    readBreaks_of_solid solid
  simp only [readGap, stays, taken, breaks]
  rfl

/-- Reading a scalar takes its first word, and looks for further words only where a
blank or a break follows. -/
theorem readPlain_of_isWord (isWord : IsWord word) (ends : EndsWord rest)
    (here : cursor.rest = word ++ rest) :
    readPlain false least cursor =
      if startsWith isSpace rest = false then
        some ⟨word, false, cursor.upTo rest⟩
      else
        (readGap least (cursor.upTo rest)).bind fun gap =>
          if gap.next.column < least then
            some ⟨word, gap.isBroken, gap.next⟩
          else
            (readWords false least (word ++ rest).length gap).bind fun run =>
              some { run with text := word ++ run.text } := by
  have unmarked := Cursor.atDocumentMark_of_isWord isWord here
  have uncommented : startsWith (· == '#') (word ++ rest) = false :=
    isWord.solid_append.uncommented
  have taken := takeWord_append isWord.inert ends
  have after : (cursor.upTo rest).rest = rest := rfl
  simp [readPlain, readWords, here, unmarked, uncommented, taken, after,
    isWord.nonempty, Gap.text, Gap.isBroken]

/-- A word before a colon or at the end of the text is a scalar. -/
theorem readPlain_word (isWord : IsWord word) (ends : EndsWord rest)
    (unspaced : startsWith isSpace rest = false)
    (here : cursor.rest = word ++ rest) :
    readPlain false least cursor =
      some ⟨word, false,
        ⟨rest, cursor.offset + byteCount word, cursor.line,
          cursor.column + word.length⟩⟩ := by
  rw [readPlain_of_isWord isWord ends here, if_pos unspaced,
    Cursor.upTo_of_eq_append here]

/-- A word before a break is a scalar within a block, since the next line is not
indented as the scalar would have to be. -/
theorem readPlain_word_break (isWord : IsWord word) (solid : Solid rest)
    (indented : 0 < least) (here : cursor.rest = word ++ '\n' :: rest) :
    readPlain false least cursor =
      some ⟨word, true,
        ⟨rest, cursor.offset + byteCount word + 1, cursor.line + 1, 0⟩⟩ := by
  have spaced : startsWith isSpace ('\n' :: rest) ≠ false := by
    simp [startsWith, isSpace, isBreak]
  rw [readPlain_of_isWord isWord endsWord_break here, if_neg spaced,
    Cursor.upTo_of_eq_append here, readGap_break solid rfl]
  exact if_pos indented

end ScopedQuery.Yaml
