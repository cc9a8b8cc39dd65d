/-
Module: ScopedQuery.Proofs.PlainMapping
Purpose: A block mapping of plain words is read entry by entry, in its order.
Trusted boundary: that of the YAML modules; the proofs add none
Main exports:
  Yaml.PlainEntry, Yaml.mappingText, Yaml.Lexer.run_mappingText,
  Yaml.readBlockEntries_tokens, Yaml.parse?_mappingText
-/
import ScopedQuery.Proofs.PlainWords
import ScopedQuery.Yaml.Document

namespace ScopedQuery.Yaml

/-!
A line `key: value` takes the lexer three tokens: the key, whose mark it puts in
front of it when it meets the colon, the colon, and the value, which also takes the
break.  Between two lines nothing is open but the mapping itself.  So a text of
lines gives four tokens for each of them, and from these the node reader has the
entries back.
-/

namespace Lexer

variable {word rest : List Char} {offset line column fuel : Nat}
  {tokens : List Token} {opened : Bool}

/-! ## From one token to the next -/

theorem closedBlocks_of_le {blocks : List Nat}
    (inside : ∀ block ∈ blocks, block ≤ column) :
    closedBlocks column blocks = (0, blocks) := by
  cases blocks with
  | nil => rfl
  | cons block blocks =>
      have := inside block List.mem_cons_self
      rw [closedBlocks, if_neg (by omega)]

/-- Where a token begins behind blanks, the lexer goes there and nothing else
happens. -/
theorem ready_eq {lexer : Lexer} {cursor : Cursor}
    (skips : lexer.skipBlanks = cursor) (solid : Solid cursor.rest)
    (fresh : refreshKey cursor lexer.key = some lexer.key)
    (outside : lexer.outerKeys = [])
    (inside : ∀ block ∈ lexer.blocks, block ≤ cursor.column) :
    lexer.ready = some { lexer with cursor } := by
  have skipped (fuel : Nat) :
      lexer.skipToToken (fuel + 1) = { lexer with cursor } := by
    simp [skipToToken, skips, skipComment, solid.uncommented,
      Cursor.takeBreak?_of_solid solid]
  simp only [ready, skipped, refreshKeys, fresh, outside, List.mapM_nil, bind,
    pure, Option.bind]
  simp [closeBlocks, inFlow, closedBlocks_of_le inside]

/-- Where no mark of the byte order stands, blanks are skipped and nothing else. -/
theorem skipBlanks_eq_skipWhile {lexer : Lexer}
    (unordered : startsWith (· == '\ufeff') lexer.cursor.rest = false) :
    lexer.skipBlanks =
      lexer.cursor.skipWhile fun char =>
        char == ' ' || (char == '\t' && (lexer.inFlow || !lexer.keyAllowed)) := by
  simp [skipBlanks, unordered]

theorem skipBlanks_of_solid {lexer : Lexer} (solid : Solid lexer.cursor.rest) :
    lexer.skipBlanks = lexer.cursor := by
  rw [skipBlanks_eq_skipWhile solid.unordered]
  exact Cursor.skipWhile_of_not_startsWith (solid.unindented _)

/-- A word begins a plain scalar. -/
theorem next_of_isWord {lexer : Lexer} (isWord : IsWord word)
    (here : lexer.cursor.rest = word ++ rest) :
    lexer.next = lexer.nextPlain := by
  rcases isWord.exists_cons with ⟨first, others, rfl, inert⟩
  rw [List.cons_append] at here
  have noStart : lexer.cursor.atLineMark '-' = false :=
    Cursor.atLineMark_eq_false here (inert.ne_of_isIndicator rfl)
  have noEnd : lexer.cursor.atLineMark '.' = false :=
    Cursor.atLineMark_eq_false here inert.noPoint
  have unmarked := inert.unmarked
  simp only [isIndicator, isFlowIndicator, List.contains_cons,
    List.contains_nil, Bool.or_eq_false_iff, beq_eq_false_iff_ne] at unmarked
  simp [next, here, noStart, noEnd, startsPlain, inert.unspaced, inert.unmarked,
    unmarked]

/-- A colon before a blank begins a value. -/
theorem next_of_colon {lexer : Lexer}
    (here : lexer.cursor.rest = ':' :: ' ' :: rest) :
    lexer.next = lexer.nextValue := by
  have noStart : lexer.cursor.atLineMark '-' = false :=
    Cursor.atLineMark_eq_false here (by decide)
  have noEnd : lexer.cursor.atLineMark '.' = false :=
    Cursor.atLineMark_eq_false here (by decide)
  simp [next, here, noStart, noEnd, endsOr, isSpace, isBlank]

theorem nextPlain_of_run {lexer marked : Lexer} {run : PlainRun}
    (mark : lexer.markKey = some marked)
    (read : readPlain marked.inFlow marked.least marked.cursor = some run) :
    lexer.nextPlain =
      some ((marked.allowKey run.newLine).emitTo (.scalar ⟨.plain, run.text⟩)
        run.next) := by
  simp [nextPlain, mark, read]

/-- One token takes one step of the run. -/
theorem run_of_next {lexer settled following : Lexer}
    (ready : lexer.ready = some settled)
    (more : settled.cursor.rest ≠ [])
    (next : settled.next = some following) :
    run (fuel + 1) lexer = run fuel following := by
  simp [run, ready, Cursor.atEnd, more, next]

/-- At the end of the text all blocks are closed. -/
theorem run_of_nil {lexer : Lexer} (nothing : lexer.cursor.rest = [])
    (outside : lexer.outerKeys = []) (unkeyed : lexer.key = none)
    (inside : ∀ block ∈ lexer.blocks, block ≤ lexer.cursor.column) :
    run (fuel + 1) lexer =
      some (lexer.tokens ++ List.replicate lexer.blocks.length .blockEnd ++
        [.streamEnd]) := by
  have solid : Solid lexer.cursor.rest := by
    rw [nothing]
    exact solid_nil
  have ready : lexer.ready = some lexer :=
    ready_eq (skipBlanks_of_solid solid) solid (by rw [unkeyed]; rfl) outside
      inside
  rw [run, ready]
  simp [Cursor.atEnd, nothing, finish, closeAllBlocks, inFlow, outside, dropKey,
    unkeyed, emit]

/-! ## Within a line -/

/-- The columns of the open blocks: that of the mapping, once it has been
opened. -/
def openBlocks : Bool → List Nat
  | true => [0]
  | false => []

/-- The token that the first key of the mapping brings with it. -/
def opening : Bool → List Token
  | true => []
  | false => [.blockMappingStart]

theorem le_of_mem_openBlocks (opened : Bool) :
    ∀ block ∈ openBlocks opened, block ≤ column := by
  intro block member
  cases opened with
  | false => cases member
  | true =>
      rw [List.mem_singleton.mp member]
      exact Nat.zero_le column

/-- The lexer at the beginning of a line. -/
def atLine (rest : List Char) (offset line : Nat) (tokens : List Token)
    (opened : Bool) : Lexer where
  cursor := ⟨rest, offset, line, 0⟩
  tokens := tokens
  blocks := openBlocks opened

/-- The lexer behind a word that began the line, which may turn out a key. -/
def behindWord (word rest : List Char) (offset line : Nat)
    (tokens : List Token) (opened : Bool) : Lexer where
  cursor := ⟨rest, offset + byteCount word, line, word.length⟩
  tokens := tokens ++ [.scalar ⟨.plain, word⟩]
  blocks := openBlocks opened
  key := some ⟨offset, line, 0, tokens.length, opened⟩
  keyAllowed := false

/-- The lexer behind the colon of a line. -/
def behindColon (cursor : Cursor) (tokens : List Token) : Lexer where
  cursor := cursor
  tokens := tokens
  blocks := openBlocks true
  keyAllowed := false

/-- What is put in at the length of the front comes right behind it. -/
theorem insertIdx_length_append {item : Type} (front back : List item)
    (here : item) :
    (front ++ back).insertIdx front.length here = front ++ here :: back := by
  induction front with
  | nil => rfl
  | cons first others inductionHypothesis =>
      rw [List.cons_append, List.length_cons, List.insertIdx_succ_cons,
        inductionHypothesis, List.cons_append]

/-- The word that begins a line is read as a scalar, and its place is kept. -/
theorem run_key (isWord : IsWord word) :
    run (fuel + 1)
        (atLine (word ++ ':' :: ' ' :: rest) offset line tokens opened) =
      run fuel
        (behindWord word (':' :: ' ' :: rest) offset line tokens opened) := by
  have solid : Solid (word ++ ':' :: ' ' :: rest) := isWord.solid_append
  have ready :
      (atLine (word ++ ':' :: ' ' :: rest) offset line tokens opened).ready =
        some (atLine (word ++ ':' :: ' ' :: rest) offset line tokens opened) :=
    ready_eq (skipBlanks_of_solid solid) solid rfl rfl
      (le_of_mem_openBlocks opened)
  have mark :
      (atLine (word ++ ':' :: ' ' :: rest) offset line tokens opened).markKey =
        some { atLine (word ++ ':' :: ' ' :: rest) offset line tokens opened with
          key := some ⟨offset, line, 0, tokens.length, opened⟩ } := by
    cases opened with
    | false => rfl
    | true => rfl
  apply run_of_next ready
  · exact List.append_ne_nil_of_right_ne_nil word (List.cons_ne_nil _ _)
  · rw [next_of_isWord isWord rfl,
      nextPlain_of_run mark (readPlain_word isWord endsWord_colon rfl rfl)]
    simp [atLine, behindWord, allowKey, emitTo, emit]

/-- At the colon the word becomes a key, and the first key opens the mapping. -/
theorem run_colon (short : byteCount word ≤ keyLimit) :
    run (fuel + 1)
        (behindWord word (':' :: ' ' :: rest) offset line tokens opened) =
      run fuel
        (behindColon
          ⟨' ' :: rest, offset + byteCount word + 1, line, word.length + 1⟩
          (tokens ++ opening opened ++
            [.key, .scalar ⟨.plain, word⟩, .value])) := by
  have fresh :
      refreshKey
          ⟨':' :: ' ' :: rest, offset + byteCount word, line, word.length⟩
          (some ⟨offset, line, 0, tokens.length, opened⟩) =
        some (some ⟨offset, line, 0, tokens.length, opened⟩) := by
    simp [refreshKey, isStale, short]
  have ready :
      (behindWord word (':' :: ' ' :: rest) offset line tokens opened).ready =
        some
          (behindWord word (':' :: ' ' :: rest) offset line tokens opened) :=
    ready_eq (skipBlanks_of_solid solid_colon) solid_colon fresh rfl
      (le_of_mem_openBlocks opened)
  apply run_of_next ready (List.cons_ne_nil _ _)
  rw [next_of_colon rfl]
  cases opened with
  | false =>
      simp [nextValue, behindWord, behindColon, openBlock, insert, inFlow,
        least, openBlocks, opening, allowKey, emitOver, emitTo, emit,
        Cursor.advance, byteCount, insertIdx_length_append, Char.utf8Size]
  | true =>
      simp [nextValue, behindWord, behindColon, openBlock, insert, inFlow,
        least, openBlocks, opening, allowKey, emitOver, emitTo, emit,
        Cursor.advance, byteCount, insertIdx_length_append, Char.utf8Size]

/-- Behind the colon a key can no longer begin. -/
theorem markKey_behindColon (cursor : Cursor) (tokens : List Token) :
    (behindColon cursor tokens).markKey = some (behindColon cursor tokens) :=
  rfl

theorem ready_behindColon (solid : Solid rest) :
    (behindColon ⟨' ' :: rest, offset, line, column⟩ tokens).ready =
      some (behindColon ⟨rest, offset + 1, line, column + 1⟩ tokens) := by
  have skips :
      (behindColon ⟨' ' :: rest, offset, line, column⟩ tokens).skipBlanks =
        ⟨rest, offset + 1, line, column + 1⟩ := by
    rw [skipBlanks_eq_skipWhile rfl, Cursor.skipWhile]
    simp only [behindColon]
    rw [List.dropWhile_cons_of_pos (by rfl),
      dropWhile_of_not_startsWith (solid.unindented _)]
    have here :
        (⟨' ' :: rest, offset, line, column⟩ : Cursor).rest = [' '] ++ rest :=
      rfl
    exact Cursor.upTo_of_eq_append here
  exact ready_eq skips solid rfl rfl (le_of_mem_openBlocks true)

/-- Before a break the value ends its line. -/
theorem run_value_break (isWord : IsWord word) (solid : Solid rest) :
    run (fuel + 1)
        (behindColon ⟨' ' :: (word ++ '\n' :: rest), offset, line, column⟩
          tokens) =
      run fuel
        (atLine rest (offset + 1 + byteCount word + 1) (line + 1)
          (tokens ++ [.scalar ⟨.plain, word⟩]) true) := by
  apply run_of_next (ready_behindColon isWord.solid_append)
  · exact List.append_ne_nil_of_right_ne_nil word (List.cons_ne_nil _ _)
  · rw [next_of_isWord isWord rfl,
      nextPlain_of_run (markKey_behindColon _ _)
        (readPlain_word_break isWord solid Nat.one_pos rfl)]
    rfl

/-- Where no break follows, the value ends the text. -/
theorem run_value_end (isWord : IsWord word) :
    run (fuel + 2) (behindColon ⟨' ' :: word, offset, line, column⟩ tokens) =
      some (tokens ++ [.scalar ⟨.plain, word⟩, .blockEnd, .streamEnd]) := by
  have whole : word = word ++ [] := (List.append_nil word).symm
  have read :
      readPlain false 1 ⟨word, offset + 1, line, column + 1⟩ =
        some ⟨word, false,
          ⟨[], offset + 1 + byteCount word, line, column + 1 + word.length⟩⟩ :=
    readPlain_word isWord endsWord_nil rfl whole
  have step :
      run (fuel + 2) (behindColon ⟨' ' :: word, offset, line, column⟩ tokens) =
        run (fuel + 1)
          (behindColon
            ⟨[], offset + 1 + byteCount word, line, column + 1 + word.length⟩
            (tokens ++ [.scalar ⟨.plain, word⟩])) := by
    apply run_of_next (ready_behindColon isWord.solid) isWord.nonempty
    rw [next_of_isWord isWord whole,
      nextPlain_of_run (markKey_behindColon _ _) read]
    rfl
  rw [step, run_of_nil rfl rfl rfl (le_of_mem_openBlocks true)]
  simp [behindColon, openBlocks]

end Lexer

/-! ## Lines -/

/-- An entry of a plain mapping: two words, the first of which is short enough for
a key that is not marked. -/
structure PlainEntry where
  key : List Char
  value : List Char
  keyIsWord : IsWord key
  valueIsWord : IsWord value
  keyFits : byteCount key ≤ keyLimit

namespace PlainEntry

/-- The line of an entry. -/
def text (entry : PlainEntry) : List Char :=
  entry.key ++ ':' :: ' ' :: entry.value

/-- The tokens of an entry. -/
def tokens (entry : PlainEntry) : List Token :=
  [.key, .scalar ⟨.plain, entry.key⟩, .value, .scalar ⟨.plain, entry.value⟩]

/-- The nodes of an entry. -/
def nodes {ref : Type} (entry : PlainEntry) : Node ref × Node ref :=
  (.scalar none none ⟨.plain, entry.key⟩,
    .scalar none none ⟨.plain, entry.value⟩)

theorem solid_text_append (entry : PlainEntry) {rest : List Char} :
    Solid (entry.text ++ rest) := by
  rw [text, List.append_assoc]
  exact entry.keyIsWord.solid_append

theorem three_le_length_text (entry : PlainEntry) : 3 ≤ entry.text.length := by
  have := List.length_pos_iff.mpr entry.keyIsWord.nonempty
  simp only [text, List.length_append, List.length_cons]
  omega

theorem all_isAllowed_text (entry : PlainEntry) :
    entry.text.all isAllowed = true := by
  have colon : isAllowed ':' = true := by decide
  have space : isAllowed ' ' = true := by decide
  rw [text, List.all_append, List.all_cons, List.all_cons,
    entry.keyIsWord.all_isAllowed, entry.valueIsWord.all_isAllowed, colon,
    space]
  rfl

end PlainEntry

/-- The lines of entries with a break between any two of them. -/
def mappingText (entries : List PlainEntry) : List Char :=
  ['\n'].intercalate (entries.map PlainEntry.text)

section Mapping

variable {entry next : PlainEntry} {entries : List PlainEntry}
  {rest : List Char}

theorem mappingText_singleton : mappingText [entry] = entry.text :=
  List.intercalate_singleton

theorem mappingText_cons_cons :
    mappingText (entry :: next :: entries) =
      entry.text ++ '\n' :: mappingText (next :: entries) := by
  simp [mappingText]

theorem solid_mappingText_append :
    Solid (mappingText (entry :: entries) ++ rest) := by
  cases entries with
  | nil =>
      rw [mappingText_singleton]
      exact entry.solid_text_append
  | cons next entries =>
      rw [mappingText_cons_cons, List.append_assoc]
      exact entry.solid_text_append

theorem length_le_length_mappingText (entries : List PlainEntry) :
    3 * entries.length ≤ (mappingText entries).length := by
  cases entries with
  | nil => exact Nat.zero_le _
  | cons entry entries =>
      induction entries generalizing entry with
      | nil =>
          rw [mappingText_singleton]
          exact entry.three_le_length_text
      | cons next entries inductionHypothesis =>
          have here := entry.three_le_length_text
          have later := inductionHypothesis next
          rw [mappingText_cons_cons]
          simp only [List.length_append, List.length_cons] at later ⊢
          omega

theorem all_isAllowed_mappingText (entries : List PlainEntry) :
    (mappingText entries).all isAllowed = true := by
  cases entries with
  | nil => rfl
  | cons entry entries =>
      induction entries generalizing entry with
      | nil =>
          rw [mappingText_singleton]
          exact entry.all_isAllowed_text
      | cons next entries inductionHypothesis =>
          rw [mappingText_cons_cons, List.all_append, List.all_cons,
            entry.all_isAllowed_text, inductionHypothesis next]
          rfl

end Mapping

namespace Lexer

variable {rest ending : List Char} {offset line fuel : Nat}
  {tokens : List Token} {opened : Bool} {entry : PlainEntry}
  {entries : List PlainEntry}

/-- A line with a break gives its tokens and leads to the next line. -/
theorem run_text_break (entry : PlainEntry) (solid : Solid rest) :
    run (fuel + 3)
        (atLine (entry.text ++ '\n' :: rest) offset line tokens opened) =
      run fuel
        (atLine rest
          (offset + byteCount entry.key + 1 + 1 + byteCount entry.value + 1)
          (line + 1) (tokens ++ opening opened ++ entry.tokens) true) := by
  rw [PlainEntry.text, List.append_assoc, List.cons_append, List.cons_append,
    run_key entry.keyIsWord, run_colon entry.keyFits,
    run_value_break entry.valueIsWord solid]
  simp [PlainEntry.tokens]

/-- The last line, without a break. -/
theorem run_text_end (entry : PlainEntry) :
    run (fuel + 4) (atLine entry.text offset line tokens opened) =
      some (tokens ++ opening opened ++ entry.tokens ++
        [.blockEnd, .streamEnd]) := by
  rw [PlainEntry.text, run_key entry.keyIsWord, run_colon entry.keyFits,
    run_value_end entry.valueIsWord]
  simp [PlainEntry.tokens]

/-- The lines of a mapping give the tokens of its entries.  The induction goes by
lines: after the first of them the mapping is open. -/
theorem run_mappingText (ends : ending = [] ∨ ending = ['\n'])
    (enough : 3 * (entry :: entries).length < fuel) :
    run fuel
        (atLine (mappingText (entry :: entries) ++ ending) offset line tokens
          opened) =
      some (tokens ++ opening opened ++
        (entry :: entries).flatMap PlainEntry.tokens ++
          [.blockEnd, .streamEnd]) := by
  induction entries generalizing entry fuel offset line tokens opened with
  | nil =>
      obtain ⟨more, rfl⟩ : ∃ more, fuel = more + 4 :=
        Nat.exists_eq_add_of_le' enough
      rw [mappingText_singleton, List.flatMap_singleton]
      rcases ends with rfl | rfl
      · rw [List.append_nil]
        exact run_text_end entry
      · rw [run_text_break entry solid_nil,
          run_of_nil rfl rfl rfl (le_of_mem_openBlocks true)]
        simp [atLine, openBlocks]
  | cons next entries inductionHypothesis =>
      rw [List.length_cons] at enough
      obtain ⟨more, rfl⟩ : ∃ more, fuel = more + 3 :=
        Nat.exists_eq_add_of_le' (by omega)
      rw [mappingText_cons_cons, List.append_assoc, List.cons_append,
        run_text_break entry solid_mappingText_append,
        inductionHypothesis (by omega)]
      simp [opening]

end Lexer

/-! ## Documents -/

section Documents

variable {handles : TagHandles} {fuel : Nat} {tokens : List Token}
  {entries : List PlainEntry}

/-- The tokens of a mapping with at least one entry. -/
theorem tokens?_mappingText {text : String} {entry : PlainEntry}
    {ending : List Char} (ends : ending = [] ∨ ending = ['\n'])
    (written : text.toList = mappingText (entry :: entries) ++ ending) :
    tokens? text =
      some (.blockMappingStart ::
        ((entry :: entries).flatMap PlainEntry.tokens ++
          [.blockEnd, .streamEnd])) := by
  have allowed :
      (mappingText (entry :: entries) ++ ending).all isAllowed = true := by
    rw [List.all_append, all_isAllowed_mappingText]
    rcases ends with rfl | rfl
    · rfl
    · rfl
  have enough := length_le_length_mappingText (entry :: entries)
  have whole :
      ({ cursor := { rest := mappingText (entry :: entries) ++ ending } } :
        Lexer) =
        Lexer.atLine (mappingText (entry :: entries) ++ ending) 0 0 [] false :=
    rfl
  simp only [tokens?, written, if_pos allowed]
  rw [whole, Lexer.run_mappingText ends (by rw [List.length_append]; omega)]
  rfl

/-- A scalar within a mapping is read as a node. -/
theorem readOptional_scalar (scalar : Scalar) :
    readOptional handles .blockValue [.key, .value, .blockEnd] (fuel + 2)
        (.scalar scalar :: tokens) =
      some (.scalar none none scalar, tokens) := by
  simp [readOptional, nextIn, readNode, readProperties]

/-- The tokens of entries are read as their nodes. -/
theorem readBlockEntries_tokens (entries : List PlainEntry) :
    readBlockEntries handles (fuel + entries.length + 2)
        (entries.flatMap PlainEntry.tokens ++ .blockEnd :: tokens) =
      some (entries.map PlainEntry.nodes, tokens) := by
  induction entries with
  | nil => simp [readBlockEntries]
  | cons entry entries inductionHypothesis =>
      have remaining :
          fuel + (entry :: entries).length + 2 =
            fuel + entries.length + 2 + 1 := by
        rw [List.length_cons]
        omega
      rw [remaining, List.flatMap_cons, List.append_assoc, PlainEntry.tokens]
      simp only [List.cons_append, List.nil_append, readBlockEntries,
        readOptional_scalar, inductionHypothesis, bind, Option.bind]
      rfl

/-- At the root, entries are read as a mapping. -/
theorem readRoot_tokens (entries : List PlainEntry) :
    readRoot handles
        (.blockMappingStart ::
          (entries.flatMap PlainEntry.tokens ++ .blockEnd :: tokens)) =
      some (.mapping none (entries.map PlainEntry.nodes), tokens) := by
  have fourTokens : ∀ entry : PlainEntry, entry.tokens.length = 4 :=
    fun _ => rfl
  have written :
      (entries.flatMap PlainEntry.tokens).length = 4 * entries.length := by
    rw [List.length_flatMap]
    simp only [fourTokens, List.map_const', List.sum_replicate_nat,
      Nat.mul_comm]
  have enough :
      4 * (Token.blockMappingStart ::
          (entries.flatMap PlainEntry.tokens ++ .blockEnd :: tokens)).length +
            4 =
        15 * entries.length + 4 * tokens.length + 9 + entries.length + 2 +
          1 := by
    simp only [List.length_cons, List.length_append, written]
    omega
  rw [readRoot, enough]
  simp [readNode, readProperties, readBlockEntries_tokens]

/-- The mapping of the entries is the only document. -/
theorem rootOf?_tokens (entries : List PlainEntry) :
    rootOf?
        (.blockMappingStart ::
          (entries.flatMap PlainEntry.tokens ++ [.blockEnd, .streamEnd])) =
      some (some (.mapping none (entries.map PlainEntry.nodes))) := by
  have read :
      readDocument
          (.blockMappingStart ::
            (entries.flatMap PlainEntry.tokens ++ [.blockEnd, .streamEnd])) =
        some (.mapping none (entries.map PlainEntry.nodes), [.streamEnd]) :=
    readRoot_tokens entries
  simp only [rootOf?, read]
  rfl

/-- Entries without anchors keep their nodes. -/
theorem numberEntries_nodes (entries : List PlainEntry) :
    numberEntries {} (entries.map PlainEntry.nodes) =
      some ({}, entries.map PlainEntry.nodes) := by
  induction entries with
  | nil => rfl
  | cons entry entries inductionHypothesis =>
      simp [PlainEntry.nodes, numberEntries, numberNode, Anchors.define,
        inductionHypothesis]

/-- The root of a document with some entries. -/
def mappingRoot : List PlainEntry → Option (Node Nat)
  | [] => none
  | entry :: entries =>
      some (.mapping none ((entry :: entries).map PlainEntry.nodes))

/-- A text of lines, with or without a break behind the last of them, is the
mapping of its entries. -/
theorem parse?_mappingText {text : String} {ending : List Char}
    (ends : ending = [] ∨ ending = ['\n'])
    (written : text.toList = mappingText entries ++ ending) :
    Document.parse? text = some ⟨mappingRoot entries, {}⟩ := by
  cases entries with
  | nil =>
      rw [Document.parse?, tokens?, written]
      rcases ends with rfl | rfl
      · rfl
      · rfl
  | cons entry entries =>
      rw [Document.parse?, tokens?_mappingText ends written, Option.bind_some,
        Document.ofTokens?, rootOf?_tokens]
      simp only [bind, Option.bind, numberNode, Anchors.define,
        numberEntries_nodes, mappingRoot]

end Documents

end ScopedQuery.Yaml
