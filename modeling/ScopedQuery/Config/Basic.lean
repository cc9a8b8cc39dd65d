/-
Module: ScopedQuery.Config.Basic
Purpose: Settings of flattening and the rules that they have to obey.
Trusted boundary: agreement with the checks of validator 0.20 and with the JSON
  form that serde 1 derives is assumed, not proved
Main exports:
  Config, Config.violations, Config.isIdentifier, Config.encode,
  Config.decode?
-/
import ScopedQuery.Json.Record

namespace ScopedQuery

/-- Settings of flattening: the stem of generated aliases and the greatest
number of stacked references. -/
structure Config where
  aliasPrefix : String := "c"
  maxLiftDepth : UInt32 := 32
deriving Repr, Inhabited, DecidableEq

/-- A rule that settings break. -/
inductive Violation where
  | emptyAliasPrefix
  | aliasPrefixNotIdentifier
  | maxLiftDepthOutOfRange
deriving Repr, Inhabited, DecidableEq

namespace Violation

/-- The setting that a rule is about. -/
def field : Violation → String
  | .emptyAliasPrefix => "alias_prefix"
  | .aliasPrefixNotIdentifier => "alias_prefix"
  | .maxLiftDepthOutOfRange => "max_lift_depth"

/-- The kind of rule. -/
def code : Violation → String
  | .emptyAliasPrefix => "length"
  | .aliasPrefixNotIdentifier => "identifier"
  | .maxLiftDepthOutOfRange => "range"

/-- The rule in words. -/
def message : Violation → String
  | .emptyAliasPrefix => "Alias prefix cannot be empty"
  | .aliasPrefixNotIdentifier => "Alias prefix must be a valid SQL identifier"
  | .maxLiftDepthOutOfRange => "Max lift depth must be between 1 and 1000"

end Violation

namespace Config

/-! ## Rules -/

/-- A character that an identifier may begin with. -/
def isIdentifierStart (char : Char) : Bool :=
  char.isAlpha || char == '_'

/-- A character that an identifier may go on with. -/
def isIdentifierRest (char : Char) : Bool :=
  char.isAlphanum || char == '_'

/-- A letter or an underscore, then letters, digits and underscores, all of them
ASCII. -/
def isIdentifier (text : String) : Bool :=
  match text.toList with
  | [] => false
  | first :: rest => isIdentifierStart first && rest.all isIdentifierRest

/-- The greatest depth that the rules allow. -/
def greatestLiftDepth : UInt32 := 1000

/-- The rules that settings break, in the order of the settings. -/
def violations (config : Config) : List Violation :=
  (if config.aliasPrefix.isEmpty then [.emptyAliasPrefix] else []) ++
  (if isIdentifier config.aliasPrefix then []
    else [.aliasPrefixNotIdentifier]) ++
  (if 1 ≤ config.maxLiftDepth ∧ config.maxLiftDepth ≤ greatestLiftDepth then []
    else [.maxLiftDepthOutOfRange])

/-! ## JSON form -/

/-- Names of the fields in their order. -/
def fieldNames : List String := ["alias_prefix", "max_lift_depth"]

/-- Settings as a JSON object. -/
def encode (config : Config) : Json :=
  .object [("alias_prefix", .text config.aliasPrefix),
    ("max_lift_depth", .number (.integer config.maxLiftDepth.toNat))]

/-- A natural number below two to the thirty-second. -/
def decodeDepth? : Json → Option UInt32
  | .number (.integer value) =>
      if 0 ≤ value ∧ value < UInt32.size then
        some (UInt32.ofNat value.toNat)
      else none
  | _ => none

/-- Read a setting, or take its default where it is missing. -/
def decodeSetting? {setting : Type} (default : setting)
    (decode? : Json → Option setting) : Option Json → Option setting
  | some value => decode? value
  | none => some default

/-- Read settings from a record whose missing fields have their defaults. -/
def decode? (json : Json) : Option Config := do
  let fields ← json.record? fieldNames
  let aliasPrefix ← decodeSetting? ({} : Config).aliasPrefix Json.text?
    (fields.lookup "alias_prefix")
  let maxLiftDepth ← decodeSetting? ({} : Config).maxLiftDepth decodeDepth?
    (fields.lookup "max_lift_depth")
  some ⟨aliasPrefix, maxLiftDepth⟩

end Config

end ScopedQuery
