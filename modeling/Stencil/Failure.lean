/-
What went wrong with a template: placeholders without a value, and the
errors that a caller gets.
-/
import Stencil.Reason

namespace Stencil

open Text

/-- A placeholder of which every alternative has failed. -/
structure Failure where
  /-- What stands between the braces, without the white space around. -/
  expression : Text
  /-- All of the placeholder, as the template has it. -/
  placeholder : Text
  /-- Why each alternative has failed, in their order. -/
  reasons : List Reason
deriving DecidableEq

/-- The line that reports a failure. -/
def Failure.line (f : Failure) : Text :=
  join ["Failed to replace var $\x7b", f.expression, "\x7d in template"]

/-- The report of all failures, one line each behind a heading. -/
def Failure.report (failures : List Failure) : Text :=
  join ["validate: Failed to replace all template variables. Got ",
    ofNat failures.length, " errors:\n",
    joinWith "\n" (failures.map Failure.line)]

/-- What a caller is told instead of getting a result. -/
inductive TemplateError where
  /-- No script can have this name. -/
  | invalidScript (name : Text)
  /-- No alias can have this name. -/
  | invalidAlias (name : Text)
  /-- Placeholders are left without a value. -/
  | validation (failures : List Failure)
  /-- A text is no configuration. -/
  | config (error : Json.ReadError)
deriving DecidableEq

/-- The wording of an error. -/
def TemplateError.message : TemplateError → Text
  | invalidScript name =>
    join ["invalid script `", name, "`: name must be a non-empty identifier"]
  | invalidAlias name =>
    join ["invalid alias `", name, "`: name must be a non-empty identifier"]
  | validation failures => Failure.report failures
  | config error => join ["config error: ", error.message]

end Stencil
