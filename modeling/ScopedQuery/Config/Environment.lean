/-
Module: ScopedQuery.Config.Environment
Purpose: Settings from environment variables.
Trusted boundary: how the platform tells an unset variable from one that is no
  text is assumed, not proved
Main exports:
  Environment, readVariable, readDepth, Config.ofEnvironment
-/
import ScopedQuery.Config.Error

namespace ScopedQuery

/-!
An environment variable holds bytes, or is not set.  A variable that is not set
is read as a text given for that case; a variable that is set to nothing is read
as nothing.  These texts are written here on their own and not taken from the
default settings, and the one for the depth is parsed like any other.  The alias
prefix is read before the depth, and the rules are applied to settings that have
both been read.
-/

/-- The variables that settings are read from. -/
structure Environment where
  aliasPrefix : Option ByteArray := none
  maxLiftDepth : Option ByteArray := none

/-- The text of a variable, or the given one where it is not set. -/
def readVariable (unset : String) :
    Option ByteArray → Except ConfigError String
  | none => .ok unset
  | some bytes =>
      match String.fromUTF8? bytes with
      | some text => .ok text
      | none => .error (.variableNotUnicode bytes)

/-- The number that the text of a variable denotes, or the given text where it is
not set. -/
def readDepth (unset : String) (bytes? : Option ByteArray) :
    Except ConfigError UInt32 := do
  let text ← readVariable unset bytes?
  match Text.readUInt32 text with
  | .ok depth => return depth
  | .error fault => throw (.depthNotNumber text fault)

/-- Settings from the environment. -/
def Config.ofEnvironment (environment : Environment) :
    Except ConfigError Config := do
  let aliasPrefix ← readVariable "c" environment.aliasPrefix
  let maxLiftDepth ← readDepth "32" environment.maxLiftDepth
  Config.validate ⟨aliasPrefix, maxLiftDepth⟩

end ScopedQuery
