/-
What is logged while a template is rendered.
-/
import Stencil.Expression
import Stencil.Reason

namespace Stencil

/-- How much an event matters. -/
inductive Level where
  | trace
  | debug
  | warn
deriving DecidableEq, Repr

/-- The name of a level. -/
def Level.name : Level → Text
  | trace => "TRACE"
  | debug => "DEBUG"
  | warn => "WARN"

/-- Something worth logging. -/
inductive Event where
  /-- A placeholder has got a value. -/
  | placeholderResolved (expression : Text)
  /-- An alias is looked at; it stands for this path. -/
  | expandingAlias (name path : Text)
  /-- A script is called. -/
  | invokingScript (script : Text)
  /-- This alternative gives no value. -/
  | alternativeFailed (alternative : Alternative) (reason : Reason)
  /-- A field that should hold JSON does not, and stays a string. -/
  | fieldNotDecoded (field : Text) (error : Json.ReadError)
  /-- A template has been gone through. -/
  | renderFinished (placeholders failures : Nat)
  /-- The result is refused because of the failures. -/
  | validationFailed (errors : Nat)
deriving DecidableEq

namespace Event

/-- How much an event matters. -/
def level : Event → Level
  | placeholderResolved _ => .trace
  | expandingAlias _ _ => .trace
  | invokingScript _ => .trace
  | alternativeFailed _ _ => .debug
  | fieldNotDecoded _ _ => .debug
  | renderFinished _ _ => .debug
  | validationFailed _ => .warn

/-- What an event says. -/
def message : Event → Text
  | placeholderResolved _ => "placeholder resolved"
  | expandingAlias _ _ => "expanding alias"
  | invokingScript _ => "invoking script"
  | alternativeFailed _ _ => "alternative failed"
  | fieldNotDecoded _ _ => "json field did not decode, keeping raw string"
  | renderFinished _ _ => "render finished"
  | validationFailed _ => "template validation failed"

/-- What an event is about: names with their values. An alternative that
has failed is in the event itself; the field `alternative` that a log may
show for it is in a form for debugging, and is left out here. -/
def fields : Event → List (Text × Text)
  | placeholderResolved expression => [("expression", expression)]
  | expandingAlias name path => [("alias", name), ("path", path)]
  | invokingScript script => [("script", script)]
  | alternativeFailed _ reason => [("reason", reason.message)]
  | fieldNotDecoded field error =>
    [("field", field), ("error", error.message)]
  | renderFinished placeholders failures =>
    [("placeholders", .ofNat placeholders), ("failures", .ofNat failures)]
  | validationFailed errors => [("errors", .ofNat errors)]

end Event

end Stencil
