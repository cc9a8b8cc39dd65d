/-
Module: ScopedQuery.Yaml.Cursor
Purpose: A position in a YAML text and the classes of its characters.
Trusted boundary: agreement with the scanner of libyaml that serde_yaml 0.9 reads
  with is assumed, not proved
Main exports:
  Cursor, Cursor.advance, Cursor.takeBreak?, isBlank, isBreak, isAllowed
-/

namespace ScopedQuery.Yaml

/-!
A cursor holds the characters that are still to be read, the number of bytes
before them, and the line and column of the next one.  Columns go by characters,
and the bytes are those of UTF-8.  A carriage return with a line feed is one line
break; breaks other than the line and paragraph separators read as a line feed.
-/

/-! ## Classes of characters -/

/-- A character that a text may hold. -/
def isAllowed (char : Char) : Bool :=
  char == '\t' || char == '\n' || char == '\r' ||
  (' ' ≤ char && char ≤ '~') || char == '\u0085' ||
  ('\u00a0' ≤ char && char ≤ '\ufffd') || 0x10000 ≤ char.toNat

/-- A space or a tab. -/
def isBlank (char : Char) : Bool :=
  char == ' ' || char == '\t'

/-- A character that ends a line. -/
def isBreak (char : Char) : Bool :=
  char == '\n' || char == '\r' || char == '\u0085' ||
  char == '\u2028' || char == '\u2029'

/-- A blank or a line break. -/
def isSpace (char : Char) : Bool :=
  isBlank char || isBreak char

/-- A character of a name. -/
def isNameChar (char : Char) : Bool :=
  char.isAlphanum || char == '_' || char == '-'

/-- A text ends here, or a character of the class follows. -/
def endsOr (test : Char → Bool) : List Char → Bool
  | [] => true
  | char :: _ => test char

/-- A character of the class follows. -/
def startsWith (test : Char → Bool) : List Char → Bool
  | [] => false
  | char :: _ => test char

/-! ## Positions -/

/-- The number of bytes of characters. -/
def byteCount : List Char → Nat
  | [] => 0
  | char :: chars => char.utf8Size + byteCount chars

/-- A position in a text. -/
structure Cursor where
  rest : List Char
  offset : Nat := 0
  line : Nat := 0
  column : Nat := 0
deriving Repr, Inhabited, DecidableEq

namespace Cursor

/-- Nothing is left. -/
def atEnd (cursor : Cursor) : Bool :=
  cursor.rest.isEmpty

/-- Go on by a number of characters of the same line. -/
def advance (cursor : Cursor) (count : Nat) : Cursor :=
  { cursor with
    rest := cursor.rest.drop count
    offset := cursor.offset + byteCount (cursor.rest.take count)
    column := cursor.column + count }

/-- Go on to a later position in the same line, given by what follows it. -/
def upTo (cursor : Cursor) (rest : List Char) : Cursor :=
  { cursor.advance (cursor.rest.length - rest.length) with rest }

/-- Go on over characters of a class, none of which ends a line. -/
def skipWhile (test : Char → Bool) (cursor : Cursor) : Cursor :=
  cursor.upTo (cursor.rest.dropWhile test)

/-- The beginning of the next line, behind a line break of some bytes. -/
def nextLine (cursor : Cursor) (width : Nat) (rest : List Char) : Cursor :=
  ⟨rest, cursor.offset + width, cursor.line + 1, 0⟩

/-- Go over a line break and tell how it reads. -/
def takeBreak? (cursor : Cursor) : Option (Char × Cursor) :=
  match cursor.rest with
  | '\r' :: '\n' :: rest => some ('\n', cursor.nextLine 2 rest)
  | char :: rest =>
      if isBreak char then
        let reads := if char == '\u2028' || char == '\u2029' then char else '\n'
        some (reads, cursor.nextLine char.utf8Size rest)
      else none
  | [] => none

theorem length_skipWhile_le (test : Char → Bool) (cursor : Cursor) :
    (cursor.skipWhile test).rest.length ≤ cursor.rest.length :=
  (List.dropWhile_sublist test).length_le

theorem length_advance_le (cursor : Cursor) (count : Nat) :
    (cursor.advance count).rest.length ≤ cursor.rest.length :=
  (List.drop_sublist count cursor.rest).length_le

theorem length_lt_of_takeBreak? {cursor next : Cursor} {char : Char}
    (taken : cursor.takeBreak? = some (char, next)) :
    next.rest.length < cursor.rest.length := by
  rw [takeBreak?] at taken
  split at taken
  · next rest heq =>
      cases taken
      simp only [nextLine, heq, List.length_cons]
      omega
  · next first rest _ heq =>
      split at taken
      · cases taken
        simp [nextLine, heq]
      · cases taken
  · cases taken

/-- Three equal characters begin the line and a blank, a break or the end comes
after them. -/
def atLineMark (mark : Char) (cursor : Cursor) : Bool :=
  cursor.column == 0 &&
  match cursor.rest with
  | first :: second :: third :: rest =>
      first == mark && second == mark && third == mark && endsOr isSpace rest
  | _ => false

/-- The mark of the beginning or of the end of a document. -/
def atDocumentMark (cursor : Cursor) : Bool :=
  cursor.atLineMark '-' || cursor.atLineMark '.'

end Cursor

end ScopedQuery.Yaml
