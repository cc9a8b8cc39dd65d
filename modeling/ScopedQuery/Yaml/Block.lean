/-
Module: ScopedQuery.Yaml.Block
Purpose: Literal and folded block scalars.
Trusted boundary: agreement with the scanner of libyaml that serde_yaml 0.9 reads
  with is assumed, not proved
Main exports:
  Chomping, BlockHeader, readBlock
-/
import ScopedQuery.Yaml.Cursor

namespace ScopedQuery.Yaml

/-!
A block scalar is the lines that are indented at least as far as its first one,
or as far as its header says.  A literal scalar keeps its line breaks.  A folded
one reads a single break between two lines as a space, unless one of the lines
begins with a blank.  The header tells what happens to the breaks at the end.
-/

/-- What happens to the line breaks at the end: one is kept, none, or all. -/
inductive Chomping where
  | clip
  | strip
  | keep
deriving Repr, Inhabited, DecidableEq

/-- The signs after the indicator of a block scalar. -/
structure BlockHeader where
  chomping : Chomping
  increment : Option Nat
deriving Repr, Inhabited

/-- The chomping that a sign asks for. -/
def chomping? : Char → Option Chomping
  | '+' => some .keep
  | '-' => some .strip
  | _ => none

/-- A digit from one to nine. -/
def increment? (char : Char) : Option Nat :=
  if '1' ≤ char ∧ char ≤ '9' then some (char.toNat - '0'.toNat) else none

/-- Read an indentation increment, which may be missing but not zero. -/
def readIncrement : List Char → Option (Option Nat × List Char)
  | [] => some (none, [])
  | char :: rest =>
      if char = '0' then none
      else
        match increment? char with
        | some increment => some (some increment, rest)
        | none => some (none, char :: rest)

/-- Read the header.  Its two signs come in either order. -/
def readHeader (input : List Char) : Option (BlockHeader × List Char) :=
  match input with
  | [] => some (⟨.clip, none⟩, [])
  | char :: rest =>
      match chomping? char with
      | some chomping => do
          let (increment, rest) ← readIncrement rest
          some (⟨chomping, increment⟩, rest)
      | none => do
          let (increment, rest) ← readIncrement input
          match increment, rest with
          | some _, sign :: further =>
              match chomping? sign with
              | some chomping => some (⟨chomping, increment⟩, further)
              | none => some (⟨.clip, increment⟩, rest)
          | _, _ => some (⟨.clip, increment⟩, rest)

/-- Go over blanks and a comment to the end of the line. -/
def endLine? (cursor : Cursor) : Option Cursor :=
  let after := cursor.skipWhile isBlank
  let after :=
    if startsWith (· == '#') after.rest then after.skipWhile (!isBreak ·)
    else after
  match after.takeBreak? with
  | some (_, next) => some next
  | none => if after.atEnd then some after else none

/-- The beginning of a line that holds text, the breaks before it, and the
greatest column that was reached on the way. -/
structure Indented where
  breaks : List Char
  widest : Nat
  next : Cursor
deriving Repr, Inhabited

/-- Go over empty lines and indentation.  Without a limit all spaces are
indentation.  A tab in the indentation is refused. -/
def readIndented (limit : Option Nat) (cursor : Cursor) : Option Indented :=
  let spaces := (cursor.rest.takeWhile (· == ' ')).length
  let count :=
    match limit with
    | some column => min spaces (column - cursor.column)
    | none => spaces
  let after := cursor.advance count
  let inside :=
    match limit with
    | some column => decide (after.column < column)
    | none => true
  if inside && startsWith (· == '\t') after.rest then none
  else
    match _taken : after.takeBreak? with
    | some (char, next) => do
        let further ← readIndented limit next
        some { further with
          breaks := char :: further.breaks
          widest := max after.column further.widest }
    | none => some ⟨[], after.column, after⟩
termination_by cursor.rest.length
decreasing_by
  have := Cursor.length_lt_of_takeBreak? (by assumption)
  have : after.rest.length ≤ cursor.rest.length :=
    cursor.length_advance_le count
  omega

/-- A line of a block scalar: its text, the break that ends it, and the breaks of
the empty lines after it. -/
structure BlockLine where
  text : List Char
  lineBreak : List Char
  emptyLines : List Char
deriving Repr, Inhabited

/-- Read the lines of a block scalar, with at most `fuel` lines. -/
def readLines (column : Nat) :
    Nat → Cursor → Option (List BlockLine × Cursor)
  | 0, _ => none
  | fuel + 1, cursor =>
      if cursor.column != column || cursor.atEnd then some ([], cursor)
      else
        let text := cursor.rest.takeWhile (!isBreak ·)
        let after := cursor.skipWhile (!isBreak ·)
        match after.takeBreak? with
        | none => some ([⟨text, [], []⟩], after)
        | some (char, next) => do
            let indented ← readIndented (some column) next
            let (lines, last) ← readLines column fuel indented.next
            some (⟨text, [char], indented.breaks⟩ :: lines, last)

/-- What stands between a line and the next one. -/
def joinBreaks (folds : Bool) (line next : BlockLine) : List Char :=
  if folds && line.lineBreak == ['\n'] && !startsWith isBlank line.text &&
      !startsWith isBlank next.text then
    if line.emptyLines.isEmpty then [' '] else line.emptyLines
  else line.lineBreak ++ line.emptyLines

/-- What is kept after the last line. -/
def chompBreaks (chomping : Chomping) (line : BlockLine) : List Char :=
  match chomping with
  | .clip => line.lineBreak
  | .strip => []
  | .keep => line.lineBreak ++ line.emptyLines

/-- The text of the lines of a block scalar. -/
def joinLines (folds : Bool) (chomping : Chomping) : List BlockLine → List Char
  | [] => []
  | [line] => line.text ++ chompBreaks chomping line
  | line :: next :: lines =>
      line.text ++ joinBreaks folds line next ++
        joinLines folds chomping (next :: lines)

/-- Read a block scalar from behind its indicator.  Its lines begin at the
column `least` or beyond, and never at the first column. -/
def readBlock (folds : Bool) (least : Nat) (cursor : Cursor) :
    Option (List Char × Cursor) := do
  let (header, rest) ← readHeader cursor.rest
  let start ← endLine? (cursor.upTo rest)
  let limit := header.increment.map fun increment => least - 1 + increment
  let indented ← readIndented limit start
  let column := limit.getD (max indented.widest (max least 1))
  let (lines, last) ← readLines column (indented.next.rest.length + 1) indented.next
  let text :=
    if lines.isEmpty then
      if header.chomping = .keep then indented.breaks else []
    else indented.breaks ++ joinLines folds header.chomping lines
  some (text, last)

end ScopedQuery.Yaml
