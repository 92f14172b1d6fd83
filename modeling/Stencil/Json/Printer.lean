/-
Writing JSON, with no white space between the parts.
-/
import Stencil.Json.FloatText
import Stencil.Json.Quoted
import Stencil.Json.Basic

namespace Stencil.Json

open Text

mutual

/-- A document as JSON. -/
def print : Json → Text
  | .null => "null"
  | .bool true => "true"
  | .bool false => "false"
  | .int i => ofInt i
  | .float x => floatText x
  | .string s => quote s
  | .array items => '[' :: joinWith "," (printItems items) ++ [']']
  | .object members => '{' :: joinWith "," (printMembers members) ++ ['}']

/-- The items of an array as JSON. -/
def printItems : List Json → List Text
  | [] => []
  | item :: rest => item.print :: printItems rest

/-- The members of an object as JSON. -/
def printMembers : List (Text × Json) → List Text
  | [] => []
  | (name, value) :: rest =>
    (quote name ++ [':'] ++ value.print) :: printMembers rest

end

/-- A value as a template shows it: a string as it is, anything else as
JSON. -/
def display : Json → Text
  | .string s => s
  | json => json.print

end Stencil.Json
