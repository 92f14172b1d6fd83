/-
Configurations of an engine, and how they are written as JSON.
-/
import Stencil.Json.Printer

namespace Stencil

/-- What an engine can be told besides its template. -/
structure Config where
  /-- The fields that hold JSON in a string. -/
  jsonFields : List Text
  /-- The paths that aliases stand for. -/
  aliases : Table Text
  /-- Whether a placeholder without a value is left out. -/
  blankFailures : Bool
deriving DecidableEq

namespace Config

/-- What holds where nothing is said. -/
def default : Config := ⟨[], ∅, true⟩

instance : Inhabited Config := ⟨default⟩

/-- The name of the member that lists the fields. -/
def jsonFieldsName : Text := "json_fields"

/-- The name of the member with the aliases. -/
def aliasesName : Text := "aliases"

/-- The name of the member that says what becomes of failures. -/
def blankFailuresName : Text := "interpolate_failure_as_blank"

/-- The names of the members of a configuration, in their order. -/
def memberNames : List Text :=
  [jsonFieldsName, aliasesName, blankFailuresName]

/-- A configuration as JSON; the members come in their own order, not in
that of their names. -/
def print (c : Config) : Text :=
  let fields := Json.array (c.jsonFields.map .string)
  let aliases :=
    Json.object (c.aliases.entries.map fun (name, path) =>
      (name, .string path))
  let values := [fields, aliases, .bool c.blankFailures]
  '{' :: Text.joinWith "," (Json.printMembers (memberNames.zip values))
    ++ ['}']

end Config

end Stencil
