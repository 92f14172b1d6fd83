/-
The ways of rendering evaluate a template alike.

A caller can ask for validation or not, and for failures to be left out or
to be kept. What comes of the template is said here before any of that is
looked at: from segment to segment there are `Part`s, text that is shown in
any case or a placeholder that has failed, while scripts are called and
their turns advance (`Comes`). The flag only says what a failed part adds
to the text, and validation only what becomes of the whole.

# The argument

Pieces are rendered to the text and the failures of the parts that come of
their segments, with one and the same parts for both flags
(`exists_parts`); every rendering is such a pass, of which the failures are
recorded and nothing else (`render_leaves`). For the texts that leaves a
sum over the parts (`byteLength_kept`), and for an engine with empty tables
the turns, which nothing looks at (`cleared_pass`).

Main statement: `render_modes`.
-/
import Mathlib.Algebra.Ring.Nat
import Stencil.Proofs.Agreement
import Stencil.Proofs.Resumption

namespace Stencil

open Text

-- ================================================ statement vocabulary

/-- What comes of a segment of a template. -/
inductive Part where
  /-- Text that is there in any case: a literal, or a value. -/
  | shown (text : Text)
  /-- A placeholder without a value. -/
  | failed (failure : Failure)

namespace Part

/-- What a part adds to the text: a failed placeholder adds nothing, or
itself as it is written. -/
def text (blank : Bool) : Part → Text
  | shown text => text
  | failed failure => if blank then [] else failure.placeholder

/-- The failure, if the part is one. -/
def failure? : Part → Option Failure
  | shown _ => none
  | failed failure => some failure

/-- What comes of a placeholder by the result of its chain. -/
def ofResult (raw expression : Text) : Except (List Reason) Json → Part
  | .ok value => shown value.display
  | .error reasons => failed ⟨expression, raw, reasons⟩

end Part

/-- What comes of segments, one after the other, from some turns: a part
for each, the scripts called, and the turns left. -/
inductive Comes (ctx : Context) :
    Turns → List Segment → List Part → List Text → Turns → Prop where
  | nil (turns : Turns) : Comes ctx turns [] [] [] turns
  | literal {turns after : Turns} {segments : List Segment}
      {parts : List Part} {calls : List Text} (text : Text) :
      Comes ctx turns segments parts calls after →
      Comes ctx turns (.literal text :: segments) (.shown text :: parts)
        calls after
  | placeholder {turns after : Turns} {segments : List Segment}
      {parts : List Part} {calls : List Text} (raw expression : Text)
      (span : Span) {tried : Effect (Except (List Reason) Json)} :
      tried = (Expression.parse expression).eval ctx turns →
      Comes ctx tried.turns segments parts calls after →
      Comes ctx turns (.placeholder raw expression span :: segments)
        (.ofResult raw expression tried.result :: parts)
        (tried.calls ++ calls) after

namespace Engine

/-- A rendering has recorded these failures in its engine and changed
nothing else there, has called these scripts and left these turns. -/
def Leaves {α : Type} (e : Engine) (failures : List Failure)
    (calls : List Text) (after : Turns) (rendered : Effect α × Engine) :
    Prop :=
  rendered.2 = e.record failures ∧ rendered.1.calls = calls
    ∧ rendered.1.turns = after

/-- The engine with nothing in its tables. -/
def cleared (e : Engine) : Engine :=
  { e with
    jsonFields := []
    aliases := ∅
    scripts := .empty
    blankFailures := true }

end Engine

-- ============================================================= the parts

theorem filterMap_failure?_cons (part : Part) (parts : List Part) :
    (part :: parts).filterMap Part.failure?
      = part.failure?.toList ++ parts.filterMap Part.failure? := by
  cases part <;> rfl

/-- What has been rendered is these parts. -/
structure Rendering.Shows (r : Rendering) (blank : Bool)
    (parts : List Part) (calls : List Text) (after : Turns) : Prop where
  text_eq : r.text = parts.flatMap (Part.text blank)
  failures_eq : r.failures = parts.filterMap Part.failure?
  calls_eq : r.calls = calls
  turns_eq : r.turns = after

/-- Parts behind a part are shown one behind the other. -/
theorem Rendering.Shows.append {first others : Rendering} {blank : Bool}
    {part : Part} {parts : List Part} {calls calls' : List Text}
    {turns after : Turns} (hfirst : first.Shows blank [part] calls turns)
    (hothers : others.Shows blank parts calls' after) :
    (first.append others).Shows blank (part :: parts) (calls ++ calls')
      after where
  text_eq := by
    rw [Rendering.append, hfirst.text_eq, hothers.text_eq,
      ← List.flatMap_append]
    rfl
  failures_eq := by
    rw [Rendering.append, hfirst.failures_eq, hothers.failures_eq,
      ← List.filterMap_append]
    rfl
  calls_eq := congrArg₂ (· ++ ·) hfirst.calls_eq hothers.calls_eq
  turns_eq := hothers.turns_eq

namespace Engine

variable {e : Engine} {ctx : Context}

/-- A placeholder is rendered to what comes of it. -/
theorem shows_placeholder {raw : Text} {span : Span}
    (hraw : slice span e.source = raw) (expression : Text) (x : Expression)
    (turns : Turns) (blank : Bool) :
    ((e.withBlank blank).renderPiece ctx turns
        (.placeholder span expression x)).Shows blank
      [.ofResult raw expression (x.eval ctx turns).result]
      (x.eval ctx turns).calls (x.eval ctx turns).turns := by
  have hsource : slice span (e.withBlank blank).source = raw := hraw
  rw [renderPiece, hsource]
  cases (x.eval ctx turns).result with
  | ok value => exact ⟨(List.append_nil _).symm, rfl, rfl, rfl⟩
  | error reasons => exact ⟨(List.append_nil _).symm, rfl, rfl, rfl⟩

/-- Pieces are rendered to the parts that come of their segments, whether
failures are left out or kept. -/
theorem exists_parts {segments : List Segment} {pieces : List Piece}
    (h : Compiled e.source segments pieces) (turns : Turns) :
    ∃ parts calls after, Comes ctx turns segments parts calls after
      ∧ ∀ blank, ((e.withBlank blank).renderPieces ctx turns pieces).Shows
          blank parts calls after := by
  induction h generalizing turns with
  | nil => exact ⟨[], [], turns, .nil turns, fun _ => ⟨rfl, rfl, rfl, rfl⟩⟩
  | @literal text span segments pieces htext _ ih =>
    obtain ⟨parts, calls, after, hcomes, hshows⟩ := ih turns
    refine ⟨.shown text :: parts, calls, after, .literal text hcomes,
      fun blank => ?_⟩
    have hfirst : ((e.withBlank blank).renderPiece ctx turns
        (.literal span)).Shows blank [.shown text] [] turns :=
      ⟨htext.trans (List.append_nil _).symm, rfl, rfl, rfl⟩
    exact hfirst.append (hshows blank)
  | @placeholder raw expression span segments pieces hraw _ ih =>
    obtain ⟨parts, calls, after, hcomes, hshows⟩ :=
      ih ((Expression.parse expression).eval ctx turns).turns
    refine ⟨_, _, after, .placeholder raw expression span rfl hcomes,
      fun blank => ?_⟩
    have hfirst := @shows_placeholder e ctx _ _ hraw expression
      (Expression.parse expression) turns blank
    refine hfirst.append ?_
    rw [hfirst.turns_eq]
    exact hshows blank

end Engine

/-- A text with its failures kept is longer by the failures. -/
theorem byteLength_kept (parts : List Part) :
    byteLength (parts.flatMap (Part.text false))
      = byteLength (parts.flatMap (Part.text true))
        + ((parts.filterMap Part.failure?).map fun failure =>
            byteLength failure.placeholder).sum := by
  induction parts with
  | nil => rfl
  | cons part parts ih =>
    rw [List.flatMap_cons, List.flatMap_cons, byteLength_append,
      byteLength_append, ih]
    cases part with
    | shown text => exact (Nat.add_assoc ..).symm
    | failed failure =>
      rw [filterMap_failure?_cons, List.map_append, List.sum_append]
      show byteLength failure.placeholder + (_ + _)
        = 0 + _ + (byteLength failure.placeholder + _)
      omega

-- =========================================================== the engines

namespace Engine

variable (e : Engine) (turns : Turns) (data : Json)

/-- A rendering gives the text of the pass, or its failures as an error. -/
theorem result_render (validate : Bool) :
    (e.render turns data validate).1.result
      = if validate = true ∧ (e.pass turns data).failures ≠ [] then
          .error (.validation (e.pass turns data).failures)
        else .ok (e.pass turns data).text := by
  rw [render_eq]

/-- A rendering leaves what the pass does, refused or not. -/
theorem render_leaves (validate : Bool) :
    e.Leaves (e.pass turns data).failures (e.pass turns data).calls
      (e.pass turns data).turns (e.render turns data validate) := by
  rw [render_eq]
  exact ⟨rfl, rfl, rfl⟩

/-- With nothing in its tables, an engine goes through its template as a
new one for it, whatever the turns. -/
theorem cleared_pass :
    (e.cleared.pass turns data).Alike ((new e.source).pass [] data) := by
  have hagree : (e.cleared.context data).Agree (fun _ => True)
      ((new e.source).context data) turns [] :=
    ⟨Registry.counted_empty turns, Registry.counted_empty [],
      fun _ _ _ => rfl, fun _ _ => rfl⟩
  exact (hagree.pass rfl rfl fun _ _ _ _ => trivial).1

/-- The parts that come of a template are the same in every mode; so are
the failures recorded, the scripts called and the turns left, and nothing
else of the engine is changed. Without validation the text is that of the
parts; with it, that is so if there are no failures, and otherwise the
result is an error that reports them. The text that keeps failures is the
other one with each failed placeholder added in its place, and is longer
by these. A template rendered once comes to what an engine with nothing in
its tables renders. -/
theorem render_modes :
    ∃ (parts : List Part) (calls : List Text) (after : Turns),
      Comes (e.context data) turns (Segment.scan e.source) parts calls after
      ∧ (∀ blank,
        let mode := e.withBlank blank
        let text := parts.flatMap (Part.text blank)
        let failures := parts.filterMap Part.failure?
        (mode.renderLossy turns data).1.result = text
          ∧ (mode.render turns data false).1.result = .ok text
          ∧ (mode.render turns data true).1.result
            = (if failures = [] then .ok text
              else .error (.validation failures))
          ∧ mode.Leaves failures calls after (mode.renderLossy turns data)
          ∧ ∀ validate, mode.Leaves failures calls after
              (mode.render turns data validate))
      ∧ (∀ failures, (TemplateError.validation failures).message
          = Failure.report failures)
      ∧ byteLength (parts.flatMap (Part.text false))
          = byteLength (parts.flatMap (Part.text true))
            + ((parts.filterMap Part.failure?).map fun failure =>
                byteLength failure.placeholder).sum
      ∧ Stencil.render e.source data
          = (e.cleared.render turns data true).1.result
      ∧ Stencil.renderLossy e.source data
          = (e.cleared.renderLossy turns data).1.result := by
  obtain ⟨parts, calls, after, hcomes, hshows⟩ :=
    @exists_parts e (e.context data) _ _ e.compiled_pieces turns
  refine ⟨parts, calls, after, hcomes, fun blank => ?_, fun _ => rfl,
    byteLength_kept parts, ?_, ?_⟩
  · intro mode text failures
    have htext : (mode.pass turns data).text = text := (hshows blank).text_eq
    have hfailures : (mode.pass turns data).failures = failures :=
      (hshows blank).failures_eq
    have hcalls : (mode.pass turns data).calls = calls :=
      (hshows blank).calls_eq
    have hafter : (mode.pass turns data).turns = after :=
      (hshows blank).turns_eq
    have hleaves := mode.render_leaves turns data
    rw [hfailures, hcalls, hafter] at hleaves
    refine ⟨htext, ?_, ?_, ⟨?_, hcalls, hafter⟩, hleaves⟩
    · rw [result_render, if_neg (fun h => Bool.noConfusion h.1), htext]
    · rw [result_render, htext, hfailures]
      by_cases hnone : failures = []
      · rw [if_neg (fun h => h.2 hnone), if_pos hnone]
      · rw [if_pos ⟨rfl, hnone⟩, if_neg hnone]
    · exact congrArg mode.record hfailures
  · have halike := e.cleared_pass turns data
    rw [Stencil.render, result_render, result_render, halike.text_eq,
      halike.failures_eq]
  · exact (e.cleared_pass turns data).text_eq.symm

end Engine

end Stencil
