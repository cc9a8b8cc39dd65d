/-
Module: ScopedQuery.Json.Printer
Purpose: Writing JSON text.
Trusted boundary: agreement with the values and texts of serde_json 1.0 is
  assumed, not proved
Main exports:
  Json.render
-/
import ScopedQuery.Json.Basic
import ScopedQuery.Text.Hexadecimal

namespace ScopedQuery.Json

/-!
Text is written without blanks.  Quotes, backslashes and control characters are
escaped and every other character stands for itself.  How a double is written
is the caller's choice.
-/

/-- One character of a string. -/
def escapeChar (char : Char) : List Char :=
  if char = '\x22' then ['\\', '\x22']
  else if char = '\\' then ['\\', '\\']
  else if char.toNat < 0x20 then ['\\', 'u'] ++ Text.hexDigits 4 char.toNat
  else [char]

/-- A string in quotes. -/
def renderText (text : String) : String :=
  "\"" ++ String.ofList (text.toList.flatMap escapeChar) ++ "\""

mutual

/-- The text of a value, with `renderDouble` for its doubles. -/
def render (renderDouble : Binary64 → String) : Json → String
  | .null => "null"
  | .boolean value => if value then "true" else "false"
  | .number (.integer value) => toString value
  | .number (.binary value) => renderDouble value
  | .text value => renderText value
  | .array items => "[" ++ ",".intercalate (renderItems renderDouble items) ++ "]"
  | .object fields =>
      "\x7b" ++ ",".intercalate (renderFields renderDouble fields) ++ "\x7d"

/-- The texts of the items of an array. -/
def renderItems (renderDouble : Binary64 → String) : List Json → List String
  | [] => []
  | item :: items =>
      item.render renderDouble :: renderItems renderDouble items

/-- The texts of the fields of an object. -/
def renderFields (renderDouble : Binary64 → String) :
    List (String × Json) → List String
  | [] => []
  | (name, value) :: fields =>
      (renderText name ++ ":" ++ value.render renderDouble) ::
        renderFields renderDouble fields

end

end ScopedQuery.Json
