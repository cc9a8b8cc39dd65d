/-
Module: ScopedQuery.Config.Document
Purpose: Settings from a YAML text or file.
Trusted boundary: agreement with how serde_yaml 0.9 fills a record from a mapping
  is assumed, not proved
Main exports:
  Settings, Config.ofDocument?, Config.ofText, Config.ofFile
-/
import ScopedQuery.Config.Error
import ScopedQuery.Yaml.Natural

namespace ScopedQuery

/-!
The settings are the entries of a mapping.  An entry with another key is
ignored, whatever it holds.  A setting that is missing has its default, and so
has every setting of an empty text.
-/

/-- The settings that were found so far. -/
structure Settings where
  aliasPrefix : Option String := none
  maxLiftDepth : Option UInt32 := none
deriving Repr, Inhabited, DecidableEq

namespace Settings

/-- The depth that a scalar stands for. -/
def depth? (tagged : Yaml.TaggedScalar) : Option UInt32 := do
  let value ← tagged.natural?
  if value < UInt32.size then some (UInt32.ofNat value) else none

/-- Take an entry.  A setting may be given once, and is a scalar. -/
def take (document : Yaml.Document) (settings : Settings)
    (entry : Yaml.Node Nat × Yaml.Node Nat) : Option Settings := do
  let key ← document.scalar? entry.1
  let name := String.ofList key.scalar.text
  if name = "alias_prefix" then
    if settings.aliasPrefix.isSome then none
    else
      let tagged ← document.scalar? entry.2
      some { settings with
        aliasPrefix := some (String.ofList tagged.scalar.text) }
  else if name = "max_lift_depth" then
    if settings.maxLiftDepth.isSome then none
    else
      let tagged ← document.scalar? entry.2
      some { settings with maxLiftDepth := some (← depth? tagged) }
  else some settings

/-- The settings with defaults for those that are missing. -/
def complete (settings : Settings) : Config :=
  ⟨settings.aliasPrefix.getD ({} : Config).aliasPrefix,
    settings.maxLiftDepth.getD ({} : Config).maxLiftDepth⟩

end Settings

namespace Config

/-- The settings of a document. -/
def ofDocument? (document : Yaml.Document) : Option Config :=
  match document.root with
  | none => some {}
  | some (.scalar _ _ scalar) => if scalar = .missing then some {} else none
  | some (.mapping _ entries) =>
      (entries.foldlM (Settings.take document) {}).map Settings.complete
  | some _ => none

/-- Load settings from a text. -/
def ofText (content : String) : Except ConfigError Config :=
  match (Yaml.Document.parse? content).bind ofDocument? with
  | some config => config.validate
  | none => .error (.documentMalformed content)

/-- Load settings from the bytes of a file, if there is a file. -/
def ofFile : Option ByteArray → Except ConfigError Config
  | none => .error (.fileUnreadable .missing)
  | some bytes =>
      match String.fromUTF8? bytes with
      | some content => ofText content
      | none => .error (.fileUnreadable .notUnicode)

end Config

end ScopedQuery
