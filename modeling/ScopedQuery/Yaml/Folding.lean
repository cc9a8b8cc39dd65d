/-
Module: ScopedQuery.Yaml.Folding
Purpose: The blanks and line breaks between two words of a flowing scalar.
Trusted boundary: agreement with the scanner of libyaml that serde_yaml 0.9 reads
  with is assumed, not proved
Main exports:
  Gap, Gap.text, readBreaks, readGap
-/
import ScopedQuery.Yaml.Cursor

namespace ScopedQuery.Yaml

/-!
Plain and quoted scalars may go over several lines.  Blanks within a line are
kept.  Blanks around a line break are dropped; a single break reads as a space
and of several breaks the first is dropped.  The line and paragraph separators
are never folded away.
-/

/-- What stands between two words: the blanks of one line, or line breaks. -/
structure Gap where
  blanks : List Char
  breaks : List Char
  next : Cursor
deriving Repr, Inhabited

/-- The gap goes over a line break. -/
def Gap.isBroken (gap : Gap) : Bool :=
  !gap.breaks.isEmpty

/-- How line breaks read between two words. -/
def foldBreaks : List Char → List Char
  | [] => []
  | ['\n'] => [' ']
  | '\n' :: breaks => breaks
  | breaks => breaks

/-- How a gap reads between two words. -/
def Gap.text (gap : Gap) : List Char :=
  if gap.isBroken then foldBreaks gap.breaks else gap.blanks

/-- Go over blanks and breaks from the beginning of a line and collect the
breaks.  A tab before the column `least` is refused. -/
def readBreaks (least : Nat) (cursor : Cursor) :
    Option (List Char × Cursor) :=
  let blanks := cursor.rest.takeWhile isBlank
  if (blanks.take (least - cursor.column)).contains '\t' then none
  else
    match _taken : (cursor.skipWhile isBlank).takeBreak? with
    | some (char, next) => do
        let (breaks, last) ← readBreaks least next
        some (char :: breaks, last)
    | none => some ([], cursor.skipWhile isBlank)
termination_by cursor.rest.length
decreasing_by
  have := Cursor.length_lt_of_takeBreak? (by assumption)
  have := Cursor.length_skipWhile_le isBlank cursor
  omega

/-- Go over the gap after a word.  A tab in the indentation of a further line
is refused before the column `least`. -/
def readGap (least : Nat) (cursor : Cursor) : Option Gap := do
  let after := cursor.skipWhile isBlank
  match after.takeBreak? with
  | none => some ⟨cursor.rest.takeWhile isBlank, [], after⟩
  | some (char, next) =>
      let (breaks, last) ← readBreaks least next
      some ⟨[], char :: breaks, last⟩

end ScopedQuery.Yaml
