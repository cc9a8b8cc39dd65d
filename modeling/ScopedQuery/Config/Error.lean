/-
Module: ScopedQuery.Config.Error
Purpose: Why settings cannot be loaded.
Trusted boundary: the words for faults of files and variables are the platform's
  and are assumed, not proved
Main exports:
  FileFault, ConfigError, ConfigError.message?
-/
import ScopedQuery.Config.Basic
import ScopedQuery.Text.Quoted
import ScopedQuery.Text.Unsigned

namespace ScopedQuery

/-- Why the text of a file cannot be had. -/
inductive FileFault where
  | missing
  | notUnicode
deriving Repr, Inhabited, DecidableEq

/-- The fault in words. -/
def FileFault.message : FileFault → String
  | .missing => "No such file or directory (os error 2)"
  | .notUnicode => "stream did not contain valid UTF-8"

/-- Why settings cannot be loaded. -/
inductive ConfigError where
  | variableNotUnicode (value : ByteArray)
  | depthNotNumber (value : String) (fault : Text.NumberFault)
  | documentMalformed (content : String)
  | fileUnreadable (fault : FileFault)
  | invalid (violations : List Violation)

namespace ConfigError

/-- The environment variable of the greatest depth. -/
def maxLiftDepthVariable : String := "RELEXPR_MAX_LIFT_DEPTH"

/-- What could not be read and its text, for the faults of reading. -/
def unread? : ConfigError → Option (String × String)
  | .depthNotNumber value _ => some (maxLiftDepthVariable, value)
  | .documentMalformed content => some ("yaml_content", content)
  | .fileUnreadable _ => some ("yaml_file", "file read failed")
  | _ => none

/-- A fault of reading in words. -/
def parseMessage (field value reason : String) : String :=
  "Parse error for " ++ field ++ ": " ++ value ++ " - " ++ reason

/-- The fault in words, where its words are fixed. -/
def message? : ConfigError → Option String
  | .variableNotUnicode value =>
      some ("Environment variable error: environment variable was not valid " ++
        "unicode: " ++ Text.quoteBytes value)
  | .depthNotNumber value fault =>
      some (parseMessage maxLiftDepthVariable value fault.message)
  | .fileUnreadable fault =>
      some (parseMessage "yaml_file" "file read failed" fault.message)
  | .documentMalformed _ => none
  | .invalid _ => none

end ConfigError

/-- The settings themselves if they obey the rules. -/
def Config.validate (config : Config) : Except ConfigError Config :=
  match config.violations with
  | [] => .ok config
  | violations => .error (.invalid violations)

end ScopedQuery
