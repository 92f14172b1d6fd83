/-
Rendering a template.

Pieces are rendered from left to right. Literal text is copied; a
placeholder becomes the value of its expression, and what that value says
is not looked at again. A placeholder without a value is left out or
stays as it is written, and is recorded as a failure; that never stops
the rendering. A caller who wants the result validated gets an error in
place of a text with failures, after all of it has been gone through.
-/
import Stencil.Engine.Basic
import Stencil.Evaluation

namespace Stencil

/-- A rendered part of a template: its text and its failures, with the
turns of the scripts after it, the scripts called and the events
logged. -/
structure Rendering where
  text : Text
  failures : List Failure
  turns : Turns
  calls : List Text
  log : List Event

/-- Two parts, one behind the other. -/
def Rendering.append (a b : Rendering) : Rendering :=
  { text := a.text ++ b.text
    failures := a.failures ++ b.failures
    turns := b.turns
    calls := a.calls ++ b.calls
    log := a.log ++ b.log }

namespace Engine

/-- What the engine's expressions are evaluated against. -/
def context (e : Engine) (data : Json) : Context :=
  { root := data
    jsonFields := e.jsonFields
    aliases := e.aliases
    scripts := e.scripts }

/-- Renders one piece. -/
def renderPiece (e : Engine) (ctx : Context) (turns : Turns) :
    Piece → Rendering
  | .literal span => ⟨Text.slice span e.source, [], turns, [], []⟩
  | .placeholder span text expression =>
    let raw := Text.slice span e.source
    let tried := expression.eval ctx turns
    match tried.result with
    | .ok value =>
      { text := value.display
        failures := []
        turns := tried.turns
        calls := tried.calls
        log := tried.log ++ [.placeholderResolved text] }
    | .error reasons =>
      { text := if e.blankFailures then [] else raw
        failures := [⟨text, raw, reasons⟩]
        turns := tried.turns
        calls := tried.calls
        log := tried.log }

/-- Renders pieces one after the other. -/
def renderPieces (e : Engine) (ctx : Context) (turns : Turns) :
    List Piece → Rendering
  | [] => ⟨[], [], turns, [], []⟩
  | piece :: rest =>
    let first := e.renderPiece ctx turns piece
    first.append (renderPieces e ctx first.turns rest)

/-- Renders the whole template and logs the outcome. -/
def pass (e : Engine) (turns : Turns) (data : Json) : Rendering :=
  let r := e.renderPieces (e.context data) turns e.pieces
  { r with
    log := r.log ++
      [.renderFinished e.placeholders.length r.failures.length] }

/-- The engine when a rendering has left these failures. -/
def record (e : Engine) (failures : List Failure) : Engine :=
  { e with failures := failures }

/-- Renders without validation; this always gives a text. -/
def renderLossy (e : Engine) (turns : Turns) (data : Json) :
    Effect Text × Engine :=
  let r := e.pass turns data
  (⟨r.text, r.turns, r.calls, r.log⟩, e.record r.failures)

/-- Renders; with `validate`, failures make the result an error. The
failures are recorded in any case. -/
def render (e : Engine) (turns : Turns) (data : Json) (validate : Bool) :
    Effect (Except TemplateError Text) × Engine :=
  let r := e.pass turns data
  let effect :=
    if validate && !r.failures.isEmpty then
      { result := .error (.validation r.failures)
        turns := r.turns
        calls := r.calls
        log := r.log ++ [.validationFailed r.failures.length] }
    else ⟨.ok r.text, r.turns, r.calls, r.log⟩
  (effect, e.record r.failures)

/-- Validation only changes the result and the log, and only if there are
failures. -/
theorem render_eq (e : Engine) (turns : Turns) (data : Json)
    (validate : Bool) :
    e.render turns data validate
      = let r := e.pass turns data
        let refused := validate = true ∧ r.failures ≠ []
        ({ result := if refused then .error (.validation r.failures)
            else .ok r.text
           turns := r.turns
           calls := r.calls
           log := r.log
            ++ if refused then [.validationFailed r.failures.length]
              else [] },
          e.record r.failures) := by
  have hrefused : (validate && !(e.pass turns data).failures.isEmpty) = true
      ↔ validate = true ∧ (e.pass turns data).failures ≠ [] := by simp
  rw [render]
  by_cases h : validate = true ∧ (e.pass turns data).failures ≠ []
  · simp only [if_pos (hrefused.2 h), if_pos h]
  · simp only [if_neg (mt hrefused.1 h), if_neg h, List.append_nil]

end Engine

/-- Renders a template once, without aliases and scripts; it is an error
if a placeholder has no value. -/
def render (template : Text) (data : Json) : Except TemplateError Text :=
  ((Engine.new template).render [] data true).1.result

/-- Renders a template once, without aliases and scripts; placeholders
without a value are left out. -/
def renderLossy (template : Text) (data : Json) : Text :=
  ((Engine.new template).renderLossy [] data).1.result

end Stencil
