/-
Module: ScopedQuery.Yaml.Tag
Purpose: Tags, anchor names and directives.
Trusted boundary: agreement with the scanner of libyaml that serde_yaml 0.9 reads
  with is assumed, not proved
Main exports:
  readName, readTag, readDirective
-/
import ScopedQuery.Text.Hexadecimal
import ScopedQuery.Yaml.Block
import ScopedQuery.Yaml.Token

namespace ScopedQuery.Yaml

/-!
A tag is given in full between angle brackets, or as a handle and a suffix.  The
handle stands for what a directive says.  A lone exclamation mark is a suffix
without a handle.  Escapes give the bytes of characters, of which only the sizes
are checked.  A zero byte ends a full tag, a suffix or what a directive says, and
the bytes behind it are read but do not count.
-/

/-! ## Names of anchors -/

/-- A character that may follow the name of an anchor. -/
def endsName (char : Char) : Bool :=
  isSpace char ||
  ['?', ':', ',', ']', '\x7d', '%', '@', '\x60'].contains char

/-- Read the name of an anchor. -/
def readName (cursor : Cursor) : Option (List Char × Cursor) :=
  let name := cursor.rest.takeWhile isNameChar
  let after := cursor.skipWhile isNameChar
  if name.isEmpty || !endsOr endsName after.rest then none
  else some (name, after)

/-! ## Tags -/

/-- A character of a tag.  Some are allowed only in a full tag. -/
def isTagChar (full : Bool) (char : Char) : Bool :=
  isNameChar char ||
  [';', '/', '?', ':', '@', '&', '=', '+', '$', '.', '!', '~', '*', '\x27',
    '(', ')'].contains char ||
  (full && [',', '[', ']'].contains char)

/-- The number of bytes that follow the first byte of a character. -/
def continuationCount? (lead : UInt8) : Option Nat :=
  if lead < 0x80 then some 0
  else if 0xC0 ≤ lead ∧ lead < 0xE0 then some 1
  else if 0xE0 ≤ lead ∧ lead < 0xF0 then some 2
  else if 0xF0 ≤ lead ∧ lead < 0xF8 then some 3
  else none

/-- Read a byte written as a percent sign and two digits. -/
def takeEscapedByte : List Char → Option (UInt8 × List Char)
  | '%' :: high :: low :: rest => do
      some (UInt8.ofNat (← Text.hexValue? [high, low]), rest)
  | _ => none

/-- Read the bytes that continue a character. -/
def takeContinuation : Nat → List Char → Option (TagText × List Char)
  | 0, input => some ([], input)
  | count + 1, input => do
      let (byte, rest) ← takeEscapedByte input
      if 0x80 ≤ byte ∧ byte < 0xC0 then
        let (bytes, rest) ← takeContinuation count rest
        some (byte :: bytes, rest)
      else none

/-- Read a character whose bytes are escaped. -/
def takeEscaped (input : List Char) : Option (TagText × List Char) := do
  let (lead, rest) ← takeEscapedByte input
  let (bytes, rest) ← takeContinuation (← continuationCount? lead) rest
  some (lead :: bytes, rest)

/-- Read the text of a tag, at most `fuel` characters of it. -/
def takeTagText (full : Bool) : Nat → List Char → Option (TagText × List Char)
  | 0, input => some ([], input)
  | fuel + 1, input =>
      match input with
      | [] => some ([], [])
      | char :: rest =>
          if char = '%' then do
            let (escaped, rest) ← takeEscaped input
            let (text, rest) ← takeTagText full fuel rest
            some (escaped ++ text, rest)
          else if isTagChar full char then do
            let (text, rest) ← takeTagText full fuel rest
            some (TagText.ofChars [char] ++ text, rest)
          else some ([], input)

/-- Read the handle of a tag: an exclamation mark, then perhaps a name and
another mark. -/
def takeHandle : List Char → Option (List Char × List Char)
  | '!' :: rest =>
      let name := rest.takeWhile isNameChar
      match rest.dropWhile isNameChar with
      | '!' :: after => some ('!' :: name ++ ['!'], after)
      | after => some ('!' :: name, after)
  | _ => none

/-- A handle between two marks. -/
def isClosedHandle (handle : List Char) : Bool :=
  2 ≤ handle.length && handle.getLast? == some '!'

/-- Read a tag. -/
def takeTag (input : List Char) : Option (Token × List Char) :=
  match input with
  | '!' :: '<' :: rest => do
      let (text, rest) ← takeTagText true rest.length rest
      match rest with
      | '>' :: after =>
          if text.isEmpty then none
          else some (.tag [] (TagText.beforeZero text), after)
      | _ => none
  | _ => do
      let (handle, rest) ← takeHandle input
      let (text, rest) ← takeTagText false rest.length rest
      if isClosedHandle handle then
        if text.isEmpty then none
        else some (.tag handle (TagText.beforeZero text), rest)
      else
        let suffix := TagText.beforeZero (TagText.ofChars (handle.drop 1) ++ text)
        if suffix.isEmpty then some (.tag [] (TagText.ofChars ['!']), rest)
        else some (.tag ['!'] suffix, rest)

/-- Read a tag with what has to follow it. -/
def readTag (inFlow : Bool) (cursor : Cursor) : Option (Token × Cursor) := do
  let (token, rest) ← takeTag cursor.rest
  if endsOr isSpace rest || (inFlow && startsWith (· == ',') rest) then
    some (token, cursor.upTo rest)
  else none

/-! ## Directives -/

/-- Read a number of at most nine digits. -/
def takeVersionNumber (input : List Char) : Option (Nat × List Char) :=
  let digits := input.takeWhile Char.isDigit
  if digits.isEmpty || 9 < digits.length then none
  else
    some (digits.foldl (fun value digit => value * 10 + (digit.toNat - 48)) 0,
      input.dropWhile Char.isDigit)

/-- Read the two numbers of a version. -/
def takeVersion (input : List Char) : Option (Token × List Char) := do
  let (major, rest) ← takeVersionNumber (input.dropWhile isBlank)
  match rest with
  | '.' :: rest => do
      let (minor, rest) ← takeVersionNumber rest
      some (.version major minor, rest)
  | _ => none

/-- Read a handle and what it stands for. -/
def takeTagDirective (input : List Char) : Option (Token × List Char) := do
  let (handle, rest) ← takeHandle (input.dropWhile isBlank)
  if !isClosedHandle handle && handle != ['!'] then none
  else if !startsWith isBlank rest then none
  else
    let rest := rest.dropWhile isBlank
    let (uri, rest) ← takeTagText true rest.length rest
    if uri.isEmpty || !endsOr isSpace rest then none
    else some (.tagDirective handle (TagText.beforeZero uri), rest)

/-- Read a directive from behind its percent sign to the end of its line. -/
def readDirective (cursor : Cursor) : Option (Token × Cursor) := do
  let name := cursor.rest.takeWhile isNameChar
  let rest := cursor.rest.dropWhile isNameChar
  if !endsOr isSpace rest then none
  else
    let (token, rest) ←
      match name with
      | ['Y', 'A', 'M', 'L'] => takeVersion rest
      | ['T', 'A', 'G'] => takeTagDirective rest
      | _ => none
    some (token, ← endLine? (cursor.upTo rest))

end ScopedQuery.Yaml
