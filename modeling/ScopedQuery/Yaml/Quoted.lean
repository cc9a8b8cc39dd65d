/-
Module: ScopedQuery.Yaml.Quoted
Purpose: Scalars in single or double quotes.
Trusted boundary: agreement with the scanner of libyaml that serde_yaml 0.9 reads
  with is assumed, not proved
Main exports:
  QuoteStyle, readQuoted
-/
import ScopedQuery.Text.Hexadecimal
import ScopedQuery.Yaml.Folding

namespace ScopedQuery.Yaml

/-!
In single quotes the only escape is a doubled quote.  In double quotes a
backslash names a character or hides a line break.  Line breaks fold as in plain
scalars, and a document mark at the beginning of a line is refused.
-/

/-- The kind of quotes around a scalar. -/
inductive QuoteStyle where
  | single
  | double
deriving Repr, Inhabited, DecidableEq

/-- The quote character. -/
def QuoteStyle.quote : QuoteStyle → Char
  | .single => '\x27'
  | .double => '\x22'

/-- The character that a letter after a backslash names. -/
def namedEscape? : Char → Option Char
  | '0' => some '\x00'
  | 'a' => some '\x07'
  | 'b' => some '\x08'
  | 't' => some '\t'
  | '\t' => some '\t'
  | 'n' => some '\n'
  | 'v' => some '\x0b'
  | 'f' => some '\x0c'
  | 'r' => some '\r'
  | 'e' => some '\x1b'
  | ' ' => some ' '
  | '\x22' => some '\x22'
  | '/' => some '/'
  | '\\' => some '\\'
  | 'N' => some '\u0085'
  | '_' => some '\u00a0'
  | 'L' => some '\u2028'
  | 'P' => some '\u2029'
  | _ => none

/-- The number of hexadecimal digits after a letter after a backslash. -/
def escapeWidth? : Char → Option Nat
  | 'x' => some 2
  | 'u' => some 4
  | 'U' => some 8
  | _ => none

/-- The character of a code point. -/
def ofCodePoint? (value : Nat) : Option Char :=
  if value.isValidChar then some (Char.ofNat value) else none

/-- Why a run of characters inside quotes ends. -/
inductive RunEnd where
  | closing
  | hiddenBreak
  | space
deriving Repr, Inhabited, DecidableEq

/-- Characters inside quotes, why they end, and what follows: after the quote,
from a hidden line break on, or from a blank, break or the end on. -/
structure QuotedRun where
  text : List Char
  runEnd : RunEnd
  rest : List Char
deriving Repr, Inhabited

/-- Put a character in front of a run. -/
def QuotedRun.cons (char : Char) (run : QuotedRun) : QuotedRun :=
  { run with text := char :: run.text }

/-- Characters inside single quotes. -/
def takeSingle : List Char → QuotedRun
  | [] => ⟨[], .space, []⟩
  | '\x27' :: '\x27' :: rest => (takeSingle rest).cons '\x27'
  | char :: rest =>
      if char = '\x27' then ⟨[], .closing, rest⟩
      else if isSpace char then ⟨[], .space, char :: rest⟩
      else (takeSingle rest).cons char

/-- Characters inside double quotes. -/
def takeDouble (input : List Char) : Option QuotedRun :=
  match input with
  | [] => some ⟨[], .space, []⟩
  | '\\' :: char :: rest =>
      if isBreak char then some ⟨[], .hiddenBreak, char :: rest⟩
      else
        match namedEscape? char with
        | some named => (takeDouble rest).map (.cons named)
        | none => do
            let width ← escapeWidth? char
            let digits := rest.take width
            if digits.length = width then
              let named ← ofCodePoint? (← Text.hexValue? digits)
              (takeDouble (rest.drop width)).map (.cons named)
            else none
  | char :: rest =>
      if char = '\\' then none
      else if char = '\x22' then some ⟨[], .closing, rest⟩
      else if isSpace char then some ⟨[], .space, char :: rest⟩
      else (takeDouble rest).map (.cons char)
termination_by input.length
decreasing_by all_goals (simp only [List.length_cons, List.length_drop]; omega)

/-- Characters inside quotes of either kind. -/
def QuoteStyle.take (style : QuoteStyle) (input : List Char) :
    Option QuotedRun :=
  match style with
  | .single => some (takeSingle input)
  | .double => takeDouble input

/-- Read runs of characters up to the closing quote, with at most `fuel`
runs. -/
def readRuns (style : QuoteStyle) :
    Nat → Cursor → Option (List Char × Cursor)
  | 0, _ => none
  | fuel + 1, cursor =>
      if cursor.atDocumentMark || cursor.atEnd then none
      else do
        let run ← style.take cursor.rest
        let after := cursor.upTo run.rest
        match run.runEnd with
        | .closing => some (run.text, after)
        | .hiddenBreak => do
            let (_, next) ← after.takeBreak?
            let (breaks, last) ← readBreaks 0 next
            let (text, close) ← readRuns style fuel last
            some (run.text ++ breaks ++ text, close)
        | .space => do
            let gap ← readGap 0 after
            let (text, close) ← readRuns style fuel gap.next
            some (run.text ++ gap.text ++ text, close)

/-- Read a quoted scalar from behind its opening quote. -/
def readQuoted (style : QuoteStyle) (cursor : Cursor) :
    Option (List Char × Cursor) :=
  readRuns style (cursor.rest.length + 1) cursor

end ScopedQuery.Yaml
