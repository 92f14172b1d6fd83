/-
Why an alternative gives no value, and how it is said.
-/
import Stencil.Json.Fault
import Stencil.SyntaxError

namespace Stencil

open Text

/-- Why an alternative gives no value. -/
inductive Reason where
  /-- An object has no member of this name. -/
  | missingField (name : Text)
  /-- A member is asked of a value that is no object. -/
  | notAnObject (name : Text)
  /-- An item is asked of a value that is no array. -/
  | notIndexable (index : Int)
  /-- An array of this length has no item there. -/
  | indexOutOfRange (index : Int) (length : Nat)
  /-- The path goes into a field that should hold JSON and does not. -/
  | invalidJson (field : Text) (error : Json.ReadError)
  /-- The value is `null`. -/
  | nullValue
  /-- The alternative is none. -/
  | invalidExpression (text : Text) (why : SyntaxError)
  /-- What an alias stands for is no path. -/
  | invalidTarget (name target : Text) (why : SyntaxError)
  /-- There is no alias of this name. -/
  | unknownAlias (name : Text)
  /-- There is no script of this name. -/
  | unknownScript (name : Text)
deriving DecidableEq

/-- The wording of a reason. -/
def Reason.message : Reason → Text
  | missingField name => join ["missing field `", name, "`"]
  | notAnObject name =>
    join ["cannot read field `", name, "` of a non-object value"]
  | notIndexable index =>
    join ["cannot index non-array value with [", ofInt index, "]"]
  | indexOutOfRange index length =>
    join ["index ", ofInt index, " out of range for array of length ",
      ofNat length]
  | invalidJson field error =>
    join ["field `", field, "` is not valid JSON: ", error.message]
  | nullValue => "value is null"
  | invalidExpression text why =>
    join ["invalid expression: `", text, "`: ", why.message]
  | invalidTarget name target why =>
    join ["invalid expression: alias `", name, "` -> `", target, "`: ",
      why.message]
  | unknownAlias name => join ["unknown alias `", name, "`"]
  | unknownScript name => join ["unknown script `", name, "`"]

end Stencil
