/-
Module: ScopedQuery.Yaml.Lexer
Purpose: Splitting a YAML text into tokens.
Trusted boundary: agreement with the scanner of libyaml that serde_yaml 0.9 reads
  with is assumed, not proved
Main exports:
  KeyMark, Lexer, tokens?
-/
import ScopedQuery.Yaml.Plain
import ScopedQuery.Yaml.Quoted
import ScopedQuery.Yaml.Tag

namespace ScopedQuery.Yaml

/-!
Outside of flow collections the structure follows from indentation: a deeper
entry opens a block and a shallower one closes it.  A key need not be marked
before it is read.  The lexer keeps the place where a key may have begun, one
place for each open flow collection, and puts the key token there when it meets
the colon.  Such a key ends on its line, within a fixed number of bytes.
-/

/-- A place where a key may have begun. -/
structure KeyMark where
  offset : Nat
  line : Nat
  column : Nat
  tokenNumber : Nat
  required : Bool
deriving Repr, Inhabited

/-- The greatest number of bytes of a key that is not marked. -/
def keyLimit : Nat := 1024

/-- The state between two tokens: the columns of the open blocks, the innermost
first, and the possible keys of the innermost and of the outer flow
collections. -/
structure Lexer where
  cursor : Cursor
  tokens : List Token := []
  blocks : List Nat := []
  key : Option KeyMark := none
  outerKeys : List (Option KeyMark) := []
  keyAllowed : Bool := true
deriving Inhabited

namespace Lexer

/-- A flow collection is open. -/
def inFlow (lexer : Lexer) : Bool :=
  !lexer.outerKeys.isEmpty

/-- The least column that is inside the innermost block. -/
def least (lexer : Lexer) : Nat :=
  match lexer.blocks with
  | [] => 0
  | column :: _ => column + 1

/-! ## Emitting tokens -/

/-- Add a token. -/
def emit (token : Token) (lexer : Lexer) : Lexer :=
  { lexer with tokens := lexer.tokens ++ [token] }

/-- Add a token and go on to a position. -/
def emitTo (token : Token) (cursor : Cursor) (lexer : Lexer) : Lexer :=
  { lexer.emit token with cursor }

/-- Add a token of a number of characters. -/
def emitOver (token : Token) (count : Nat) (lexer : Lexer) : Lexer :=
  lexer.emitTo token (lexer.cursor.advance count)

/-- Put a token before one that was added earlier. -/
def insert (number : Nat) (token : Token) (lexer : Lexer) : Lexer :=
  { lexer with tokens := lexer.tokens.insertIdx number token }

/-- Allow or forbid a key at the next token. -/
def allowKey (allowed : Bool) (lexer : Lexer) : Lexer :=
  { lexer with keyAllowed := allowed }

/-! ## Blocks -/

/-- Open a block at a column, unless one is open there already. -/
def openBlock (column number : Nat) (token : Token) (lexer : Lexer) : Lexer :=
  if lexer.inFlow || column < lexer.least then lexer
  else { lexer.insert number token with blocks := column :: lexer.blocks }

/-- Close the blocks that begin beyond a column: how many there are, and the
others. -/
def closedBlocks (column : Nat) : List Nat → Nat × List Nat
  | [] => (0, [])
  | block :: blocks =>
      if column < block then
        let (count, left) := closedBlocks column blocks
        (count + 1, left)
      else (0, block :: blocks)

/-- Close the blocks that begin beyond a column. -/
def closeBlocks (column : Nat) (lexer : Lexer) : Lexer :=
  if lexer.inFlow then lexer
  else
    let (count, blocks) := closedBlocks column lexer.blocks
    { lexer with
      tokens := lexer.tokens ++ List.replicate count .blockEnd
      blocks }

/-- Close all blocks. -/
def closeAllBlocks (lexer : Lexer) : Lexer :=
  if lexer.inFlow then lexer
  else
    { lexer with
      tokens := lexer.tokens ++ List.replicate lexer.blocks.length .blockEnd
      blocks := [] }

/-! ## Possible keys -/

/-- Give up the possible key.  One that has to be a key cannot be given up. -/
def dropKey (lexer : Lexer) : Option Lexer :=
  match lexer.key with
  | some mark =>
      if mark.required then none else some { lexer with key := none }
  | none => some lexer

/-- Remember that a key may begin here. -/
def markKey (lexer : Lexer) : Option Lexer :=
  if lexer.keyAllowed then do
    let lexer ← lexer.dropKey
    let cursor := lexer.cursor
    some { lexer with
      key := some
        { offset := cursor.offset
          line := cursor.line
          column := cursor.column
          tokenNumber := lexer.tokens.length
          required := !lexer.inFlow && lexer.blocks.head? == some cursor.column } }
  else some lexer

/-- A key that began there can no longer end here. -/
def isStale (cursor : Cursor) (mark : KeyMark) : Bool :=
  mark.line < cursor.line || mark.offset + keyLimit < cursor.offset

/-- Give up a possible key that can no longer end. -/
def refreshKey (cursor : Cursor) : Option KeyMark → Option (Option KeyMark)
  | some mark =>
      if isStale cursor mark then
        if mark.required then none else some none
      else some (some mark)
  | none => some none

/-- Give up all possible keys that can no longer end. -/
def refreshKeys (lexer : Lexer) : Option Lexer := do
  let key ← refreshKey lexer.cursor lexer.key
  let outerKeys ← lexer.outerKeys.mapM (refreshKey lexer.cursor)
  some { lexer with key, outerKeys }

/-! ## Between tokens -/

/-- Skip blanks that may stand before a token.  A tab may not stand where a key
of a block may begin. -/
def skipBlanks (lexer : Lexer) : Cursor :=
  let cursor := lexer.cursor
  let cursor :=
    if cursor.column == 0 && startsWith (· == '\ufeff') cursor.rest then
      cursor.advance 1
    else cursor
  cursor.skipWhile fun char =>
    char == ' ' || (char == '\t' && (lexer.inFlow || !lexer.keyAllowed))

/-- Skip a comment. -/
def skipComment (cursor : Cursor) : Cursor :=
  if startsWith (· == '#') cursor.rest then cursor.skipWhile (!isBreak ·)
  else cursor

/-- Skip blanks, comments and line breaks, at most `fuel` lines.  A new line
outside of flow collections may begin with a key. -/
def skipToToken : Nat → Lexer → Lexer
  | 0, lexer => lexer
  | fuel + 1, lexer =>
      let cursor := skipComment lexer.skipBlanks
      match cursor.takeBreak? with
      | some (_, next) =>
          skipToToken fuel
            { lexer with
              cursor := next
              keyAllowed := lexer.keyAllowed || !lexer.inFlow }
      | none => { lexer with cursor }

/-- Go to the next token and close the blocks that end before it. -/
def ready (lexer : Lexer) : Option Lexer := do
  let lexer := lexer.skipToToken (lexer.cursor.rest.length + 1)
  let lexer ← lexer.refreshKeys
  some (lexer.closeBlocks lexer.cursor.column)

/-! ## Tokens -/

/-- A directive or a document mark: it closes all blocks. -/
def startOver (lexer : Lexer) : Option Lexer := do
  let lexer ← lexer.closeAllBlocks.dropKey
  some (lexer.allowKey false)

/-- The beginning of a flow collection, which may be a key. -/
def openFlow (token : Token) (lexer : Lexer) : Option Lexer := do
  let lexer ← lexer.markKey
  some ({ lexer with
    key := none
    outerKeys := lexer.key :: lexer.outerKeys
    keyAllowed := true }.emitOver token 1)

/-- The end of a flow collection. -/
def closeFlow (token : Token) (lexer : Lexer) : Option Lexer := do
  let lexer ← lexer.dropKey
  let lexer :=
    match lexer.outerKeys with
    | [] => lexer
    | key :: outerKeys => { lexer with key, outerKeys }
  some ((lexer.allowKey false).emitOver token 1)

/-- The comma between entries of a flow collection. -/
def nextFlowEntry (lexer : Lexer) : Option Lexer := do
  let lexer ← lexer.dropKey
  some ((lexer.allowKey true).emitOver .flowEntry 1)

/-- Open a block for an entry that is marked.  Outside of flow collections it
stands where a key may begin. -/
def openMarked (token : Token) (lexer : Lexer) : Option Lexer :=
  if lexer.inFlow then some lexer
  else if lexer.keyAllowed then
    some (lexer.openBlock lexer.cursor.column lexer.tokens.length token)
  else none

/-- The mark of an entry of a block sequence. -/
def nextBlockEntry (lexer : Lexer) : Option Lexer := do
  let lexer ← (← lexer.openMarked .blockSequenceStart).dropKey
  some ((lexer.allowKey true).emitOver .blockEntry 1)

/-- The mark of a key. -/
def markedKey (lexer : Lexer) : Option Lexer := do
  let lexer ← (← lexer.openMarked .blockMappingStart).dropKey
  some ((lexer.allowKey !lexer.inFlow).emitOver .key 1)

/-- The colon before a value.  A possible key becomes one. -/
def nextValue (lexer : Lexer) : Option Lexer :=
  match lexer.key with
  | some mark =>
      let lexer := { lexer.insert mark.tokenNumber .key with key := none }
      let lexer :=
        lexer.openBlock mark.column mark.tokenNumber .blockMappingStart
      some ((lexer.allowKey false).emitOver .value 1)
  | none => do
      let lexer ← lexer.openMarked .blockMappingStart
      some ((lexer.allowKey !lexer.inFlow).emitOver .value 1)

/-- A token that may be, or begin, a key. -/
def keyable (read : Lexer → Option (Token × Cursor)) (lexer : Lexer) :
    Option Lexer := do
  let lexer ← lexer.markKey
  let (token, next) ← read lexer
  some ((lexer.allowKey false).emitTo token next)

/-- A name behind a sign. -/
def readSigned (token : List Char → Token) (lexer : Lexer) :
    Option (Token × Cursor) := do
  let (name, next) ← readName (lexer.cursor.advance 1)
  some (token name, next)

/-- A quoted scalar. -/
def readQuotedToken (style : QuoteStyle) (lexer : Lexer) :
    Option (Token × Cursor) := do
  let (text, next) ← readQuoted style (lexer.cursor.advance 1)
  some (.scalar ⟨.quoted, text⟩, next)

/-- A block scalar, which is no key. -/
def nextBlockScalar (style : ScalarStyle) (lexer : Lexer) : Option Lexer := do
  let lexer ← lexer.dropKey
  let (text, next) ←
    readBlock (style == .folded) lexer.least (lexer.cursor.advance 1)
  some ((lexer.allowKey true).emitTo (.scalar ⟨style, text⟩) next)

/-- A plain scalar.  After one that goes on to a new line a key may begin. -/
def nextPlain (lexer : Lexer) : Option Lexer := do
  let lexer ← lexer.markKey
  let run ← readPlain lexer.inFlow lexer.least lexer.cursor
  some ((lexer.allowKey run.newLine).emitTo (.scalar ⟨.plain, run.text⟩) run.next)

/-- A directive. -/
def nextDirective (lexer : Lexer) : Option Lexer := do
  let lexer ← lexer.startOver
  let (token, next) ← readDirective (lexer.cursor.advance 1)
  some (lexer.emitTo token next)

/-- A document mark. -/
def nextDocumentMark (token : Token) (lexer : Lexer) : Option Lexer := do
  some ((← lexer.startOver).emitOver token 3)

/-- Add the token at the position of the lexer. -/
def next (lexer : Lexer) : Option Lexer :=
  match lexer.cursor.rest with
  | [] => none
  | char :: rest =>
      let markFollows := endsOr isSpace rest
      if lexer.cursor.column == 0 && char == '%' then lexer.nextDirective
      else if lexer.cursor.atLineMark '-' then
        lexer.nextDocumentMark .documentStart
      else if lexer.cursor.atLineMark '.' then
        lexer.nextDocumentMark .documentEnd
      else if char == '[' then lexer.openFlow .flowSequenceStart
      else if char == '\x7b' then lexer.openFlow .flowMappingStart
      else if char == ']' then lexer.closeFlow .flowSequenceEnd
      else if char == '\x7d' then lexer.closeFlow .flowMappingEnd
      else if char == ',' then lexer.nextFlowEntry
      else if char == '-' && markFollows then lexer.nextBlockEntry
      else if char == '?' && (lexer.inFlow || markFollows) then lexer.markedKey
      else if char == ':' && (lexer.inFlow || markFollows) then lexer.nextValue
      else if char == '*' then lexer.keyable (readSigned .nodeRef)
      else if char == '&' then lexer.keyable (readSigned .anchor)
      else if char == '!' then
        lexer.keyable fun lexer => readTag lexer.inFlow lexer.cursor
      else if char == '|' && !lexer.inFlow then lexer.nextBlockScalar .literal
      else if char == '>' && !lexer.inFlow then lexer.nextBlockScalar .folded
      else if char == '\x27' then lexer.keyable (readQuotedToken .single)
      else if char == '\x22' then lexer.keyable (readQuotedToken .double)
      else if startsPlain lexer.inFlow (char :: rest) then lexer.nextPlain
      else none

/-- The end of the text, which ends all blocks. -/
def finish (lexer : Lexer) : Option (List Token) := do
  let lexer ← lexer.closeAllBlocks.dropKey
  some (lexer.emit .streamEnd).tokens

/-- Add tokens to the end of the text, at most `fuel` times. -/
def run : Nat → Lexer → Option (List Token)
  | 0, _ => none
  | fuel + 1, lexer => do
      let lexer ← lexer.ready
      if lexer.cursor.atEnd then lexer.finish
      else run fuel (← lexer.next)

end Lexer

/-- The tokens of a text.  Every token but the last takes at least one
character. -/
def tokens? (text : String) : Option (List Token) :=
  let chars := text.toList
  if chars.all isAllowed then
    ({ cursor := { rest := chars } } : Lexer).run (chars.length + 1)
  else none

end ScopedQuery.Yaml
