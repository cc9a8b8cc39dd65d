/-
Module: ScopedQuery.Yaml.Plain
Purpose: Scalars without quotes.
Trusted boundary: agreement with the scanner of libyaml that serde_yaml 0.9 reads
  with is assumed, not proved
Main exports:
  startsPlain, PlainRun, readPlain
-/
import ScopedQuery.Yaml.Folding
import ScopedQuery.Yaml.Token

namespace ScopedQuery.Yaml

/-!
A plain scalar is a run of words.  It ends before a colon that a blank follows,
before a comment, before a document mark, before a flow indicator inside a flow
collection, and outside of one where a line is indented less than the block that
holds the scalar.
-/

/-- A character that means something inside flow collections. -/
def isFlowIndicator (char : Char) : Bool :=
  char == ',' || char == '[' || char == ']' || char == '\x7b' || char == '\x7d'

/-- A character that starts something other than a plain scalar. -/
def isIndicator (char : Char) : Bool :=
  isFlowIndicator char ||
  ['-', '?', ':', '#', '&', '*', '!', '|', '>', '\x27', '\x22', '%', '@',
    '\x60'].contains char

/-- A plain scalar starts here. -/
def startsPlain (inFlow : Bool) : List Char → Bool
  | [] => false
  | char :: rest =>
      (!isSpace char && !isIndicator char) ||
      (char == '-' && !startsWith isBlank rest) ||
      (!inFlow && (char == '?' || char == ':') && !endsOr isSpace rest)

/-- The word at the front and what follows it.  Inside a flow collection a colon
directly before an indicator is refused. -/
def takeWord (inFlow : Bool) : List Char → Option (List Char × List Char)
  | [] => some ([], [])
  | char :: rest =>
      if isSpace char then some ([], char :: rest)
      else if char == ':' && inFlow &&
          startsWith (fun next => next == '?' || isFlowIndicator next) rest then
        none
      else if (char == ':' && endsOr isSpace rest) ||
          (inFlow && isFlowIndicator char) then
        some ([], char :: rest)
      else do
        let (word, after) ← takeWord inFlow rest
        some (char :: word, after)

/-- A run of words: its text, whether the reader went on to a new line after its
last word, and where it stopped. -/
structure PlainRun where
  text : List Char
  newLine : Bool
  next : Cursor
deriving Repr, Inhabited

/-- No further word. -/
def PlainRun.stop (newLine : Bool) (cursor : Cursor) : PlainRun :=
  ⟨[], newLine, cursor⟩

/-- Read words after a gap, with at most `fuel` words. -/
def readWords (inFlow : Bool) (least : Nat) :
    Nat → Gap → Option PlainRun
  | 0, _ => none
  | fuel + 1, gap =>
      let cursor := gap.next
      if cursor.atDocumentMark || startsWith (· == '#') cursor.rest then
        some (.stop gap.isBroken cursor)
      else do
        let (word, rest) ← takeWord inFlow cursor.rest
        if word.isEmpty then some (.stop gap.isBroken cursor)
        else
          let after := cursor.upTo rest
          let front := gap.text ++ word
          if !startsWith isSpace after.rest then some ⟨front, false, after⟩
          else
            let gap ← readGap least after
            if !inFlow && gap.next.column < least then
              some ⟨front, gap.isBroken, gap.next⟩
            else
              let run ← readWords inFlow least fuel gap
              some { run with text := front ++ run.text }

/-- Read a plain scalar.  Outside of flow collections its further lines begin at
the column `least` or beyond. -/
def readPlain (inFlow : Bool) (least : Nat) (cursor : Cursor) :
    Option PlainRun :=
  readWords inFlow least (cursor.rest.length + 1) ⟨[], [], cursor⟩

end ScopedQuery.Yaml
