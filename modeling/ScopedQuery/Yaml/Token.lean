/-
Module: ScopedQuery.Yaml.Token
Purpose: The tokens of a YAML text.
Trusted boundary: agreement with the scanner of libyaml that serde_yaml 0.9 reads
  with is assumed, not proved
Main exports:
  ScalarStyle, Scalar, TagText, Token
-/

namespace ScopedQuery.Yaml

/-- How a scalar is written. -/
inductive ScalarStyle where
  | plain
  | quoted
  | literal
  | folded
deriving Repr, Inhabited, DecidableEq

/-- A scalar as written: its style and its text, with escapes and line folding
resolved. -/
structure Scalar where
  style : ScalarStyle
  text : List Char
deriving Repr, Inhabited, DecidableEq

/-- The scalar that stands where nothing is written. -/
def Scalar.missing : Scalar := ⟨.plain, []⟩

/-- The text of a tag in bytes, since its escapes need not give characters. -/
abbrev TagText := List UInt8

namespace TagText

/-- The bytes of characters in UTF-8. -/
def ofChars (chars : List Char) : TagText :=
  chars.flatMap String.utf8EncodeChar

/-- The bytes before the first zero byte. -/
def beforeZero (text : TagText) : TagText :=
  text.takeWhile (· != 0)

end TagText

/-- A token. -/
inductive Token where
  | version (major minor : Nat)
  | tagDirective (handle : List Char) (uri : TagText)
  | documentStart
  | documentEnd
  | streamEnd
  | blockSequenceStart
  | blockMappingStart
  | blockEnd
  | flowSequenceStart
  | flowSequenceEnd
  | flowMappingStart
  | flowMappingEnd
  | blockEntry
  | flowEntry
  | key
  | value
  | nodeRef (name : List Char)
  | anchor (name : List Char)
  | tag (handle : List Char) (suffix : TagText)
  | scalar (scalar : Scalar)
deriving Repr, Inhabited, DecidableEq

end ScopedQuery.Yaml
