/-
Rendering what was taken apart beforehand, and reading the template anew.

An engine renders pieces: byte ranges of its template and expressions
that were read when it was made. `interpret` renders the template itself.
It scans it, goes from segment to segment with what it has written so far
(`Transcript`), reads the expression of a placeholder when it gets there,
and tries the alternatives one by one.

# The argument

That the ranges are right is settled once, for the pieces alone: they
are, in order, pieces of the segments found by `scan` (`Compiled`), since
the position counted while they are made is that of the segmentation
(`compiled_ofSegments`), and the ranges lie end to end from the first
byte to the last (`tiling_ofSegments`). From there on no position is
looked at: a piece adds to a transcript what its segment does
(`step_eq_extend`), and so do all of them (`foldl_step_eq_extend`).

Main statement: `render_eq_interpret`.
-/
import Stencil.Engine.Render
import Stencil.Proofs.Segmentation

namespace Stencil

open Text

-- ================================================ statement vocabulary

/-- What has come of a template so far: the text written, the failures
recorded and the scripts called, in order, and the turns of the scripts
at this point. -/
@[ext]
structure Transcript where
  text : Text
  failures : List Failure
  calls : List Text
  turns : Turns

namespace Interpreter

/-- Tries what is left of the alternatives of a placeholder. The first
one with a value ends it, and the value is written; `reasons` say why
those before have failed. When none is left, the placeholder is written
as it is, or nothing, and a failure is recorded. -/
def tryAll (ctx : Context) (blank : Bool) (raw expression : Text)
    (reasons : List Reason) (sofar : Transcript) :
    List Alternative → Transcript
  | [] =>
    { sofar with
      text := sofar.text ++ (if blank then [] else raw)
      failures := sofar.failures ++ [⟨expression, raw, reasons⟩] }
  | alternative :: rest =>
    let tried := alternative.eval ctx sofar.turns
    let after : Transcript :=
      { sofar with
        calls := sofar.calls ++ tried.calls
        turns := tried.turns }
    match tried.result with
    | .ok value => { after with text := after.text ++ value.display }
    | .error reason =>
      tryAll ctx blank raw expression (reasons ++ [reason]) after rest

/-- Goes through one segment of the template. -/
def step (ctx : Context) (blank : Bool) (sofar : Transcript) :
    Segment → Transcript
  | .literal text => { sofar with text := sofar.text ++ text }
  | .placeholder raw expression _ =>
    tryAll ctx blank raw expression [] sofar (Expression.parse expression)

/-- Goes through a template from left to right. -/
def interpret (ctx : Context) (blank : Bool) (turns : Turns)
    (template : Text) : Transcript :=
  (Segment.scan template).foldl (step ctx blank) ⟨[], [], [], turns⟩

end Interpreter

/-- A rendering has called the scripts, left the turns and recorded the
failures of a transcript. -/
def Transcript.Tells {α : Type} (t : Transcript)
    (rendered : Effect α × Engine) : Prop :=
  rendered.1.calls = t.calls ∧ rendered.1.turns = t.turns
    ∧ rendered.2.failures = t.failures

/-- The ranges lie end to end between two positions, and none is empty. -/
def Tiling (start stop : Nat) : List Span → Prop
  | [] => start = stop
  | span :: rest =>
    span.start = start ∧ span.start < span.stop ∧ Tiling span.stop stop rest

-- ========================================================== the ranges

/-- The pieces are those of the segments: each covers the same part of
the template, and the expression of a placeholder has been read. -/
inductive Compiled (template : Text) : List Segment → List Piece → Prop where
  | nil : Compiled template [] []
  | literal {text : Text} {span : Span} {segments : List Segment}
    {pieces : List Piece} :
    slice span template = text → Compiled template segments pieces →
      Compiled template (.literal text :: segments) (.literal span :: pieces)
  | placeholder {raw expression : Text} {span : Span}
    {segments : List Segment} {pieces : List Piece} :
    slice span template = raw → Compiled template segments pieces →
      Compiled template (.placeholder raw expression span :: segments)
        (.placeholder span expression (Expression.parse expression)
          :: pieces)

namespace Piece

open Segment

/-- A segment that starts behind `before` covers its own source. -/
theorem slice_source (before after source : Text) {span : Span}
    (hstart : span.start = byteLength before)
    (hstop : span.stop = span.start + byteLength source) :
    slice span (before ++ (source ++ after)) = source := by
  obtain ⟨start, stop⟩ := span
  obtain rfl : start = byteLength before := hstart
  obtain rfl : stop = byteLength before + byteLength source := hstop
  exact slice_middle before source after

/-- The pieces made from the segments of what lies behind `before` are
pieces of the whole. -/
theorem compiled_ofSegments {segments : List Segment} (before : Text)
    {t : Text} (h : Segmentation (byteLength before) t segments) :
    Compiled (before ++ t) segments
      (ofSegments (byteLength before) segments) := by
  induction segments generalizing before t with
  | nil => exact .nil
  | cons segment rest ih =>
    have hbehind := h.behind
    rw [← byteLength_append] at hbehind
    have hcompiled := ih (before ++ segment.source) hbehind
    rw [← h.covers, List.flatMap_cons]
    rw [List.append_assoc, byteLength_append] at hcompiled
    cases segment with
    | literal text =>
      exact .literal (slice_source before _ text rfl rfl) hcompiled
    | placeholder raw expression span =>
      obtain ⟨body, -, -, -, hstart, hstop⟩ := h.leads
      rw [ofSegments, hstop, hstart]
      exact .placeholder (slice_source before _ raw hstart hstop) hcompiled

/-- The pieces lie end to end. -/
theorem tiling_ofSegments {segments : List Segment} {offset : Nat}
    {t : Text} (h : Segmentation offset t segments) :
    Tiling offset (offset + byteLength t)
      ((ofSegments offset segments).map span) := by
  induction segments generalizing offset t with
  | nil =>
    rw [← h.covers]
    rfl
  | cons segment rest ih =>
    have htiling := ih h.behind
    rw [Nat.add_assoc, ← byteLength_append] at htiling
    rw [← h.covers, List.flatMap_cons]
    cases segment with
    | literal text =>
      have hpos := byteLength_pos h.leads.1
      exact ⟨rfl, Nat.lt_add_of_pos_right hpos, htiling⟩
    | placeholder raw expression span =>
      obtain ⟨start, stop⟩ := span
      obtain ⟨body, -, hraw, -, hstart, hstop⟩ := h.leads
      obtain rfl : start = offset := hstart
      obtain rfl : stop = start + byteLength raw := hstop
      have hpos : 0 < byteLength raw := byteLength_pos (by simp [hraw])
      exact ⟨rfl, Nat.lt_add_of_pos_right hpos, htiling⟩

/-- The pieces of a template, each with what it covers. -/
theorem map_slice_of_compiled {template : Text} {segments : List Segment}
    {pieces : List Piece} (h : Compiled template segments pieces) :
    pieces.map (fun piece => slice piece.span template)
      = segments.map source := by
  induction h with
  | nil => rfl
  | literal hslice hrest ih =>
    rw [List.map_cons, List.map_cons, ih]
    exact congrArg (· :: _) hslice
  | placeholder hslice hrest ih =>
    rw [List.map_cons, List.map_cons, ih]
    exact congrArg (· :: _) hslice

theorem compiled_compile (template : Text) :
    Compiled template (scan template) (compile template) :=
  compiled_ofSegments [] (segmentation_scanFrom 0 template)

theorem tiling_compile (template : Text) :
    Tiling 0 (byteLength template) ((compile template).map span) := by
  have h := tiling_ofSegments (segmentation_scanFrom 0 template)
  rwa [Nat.zero_add] at h

end Piece

-- ================================================== one placeholder

namespace Transcript

/-- What has come of a template with another part of it rendered. -/
def extend (sofar : Transcript) (r : Rendering) : Transcript :=
  { text := sofar.text ++ r.text
    failures := sofar.failures ++ r.failures
    calls := sofar.calls ++ r.calls
    turns := r.turns }

theorem extend_append (sofar : Transcript) (a b : Rendering) :
    sofar.extend (a.append b) = (sofar.extend a).extend b := by
  simp only [extend, Rendering.append, List.append_assoc]

end Transcript

namespace Interpreter

variable {ctx : Context} {blank : Bool} {raw expression : Text}

/-- A transcript after something has been evaluated. -/
def tried {α : Type} (sofar : Transcript) (effect : Effect α) :
    Transcript :=
  { sofar with
    calls := sofar.calls ++ effect.calls
    turns := effect.turns }

/-- What comes of a placeholder by the result of its chain; `reasons` say
why the alternatives before the chain have failed. -/
def settle (blank : Bool) (raw expression : Text) (reasons : List Reason)
    (after : Transcript) : Except (List Reason) Json → Transcript
  | .ok value => { after with text := after.text ++ value.display }
  | .error others =>
    { after with
      text := after.text ++ (if blank then [] else raw)
      failures := after.failures
        ++ [⟨expression, raw, reasons ++ others⟩] }

/-- Trying alternatives one by one is evaluating the chain they are. -/
theorem tryAll_eq_settle (reasons : List Reason) (sofar : Transcript)
    (alternatives : List Alternative) :
    tryAll ctx blank raw expression reasons sofar alternatives
      = settle blank raw expression reasons
          (tried sofar (Expression.eval ctx sofar.turns alternatives))
          (Expression.eval ctx sofar.turns alternatives).result := by
  induction alternatives generalizing reasons sofar with
  | nil =>
    simp only [tryAll, Expression.eval, tried, settle, List.append_nil]
  | cons first rest ih =>
    cases hfirst : (first.eval ctx sofar.turns).result with
    | ok value =>
      rw [Expression.eval_cons_of_ok rest hfirst, tryAll, hfirst]
      rfl
    | error reason =>
      have htry : tryAll ctx blank raw expression reasons sofar
            (first :: rest)
          = tryAll ctx blank raw expression (reasons ++ [reason])
              (tried sofar (first.eval ctx sofar.turns)) rest := by
        rw [tryAll, hfirst]
        rfl
      rw [htry, ih, Expression.eval_cons_of_error rest hfirst]
      simp only [tried]
      -- what the rest of the chain comes to settles the whole
      cases (Expression.eval ctx (first.eval ctx sofar.turns).turns
          rest).result with
      | ok value => simp only [settle, mapError_ok, List.append_assoc]
      | error others =>
        simp only [settle, mapError_error, List.append_assoc,
          List.singleton_append]

end Interpreter

-- =================================================== the whole template

namespace Engine

open Interpreter

variable {e : Engine} {ctx : Context}

/-- A segment adds to a transcript what its piece renders. -/
theorem step_eq_extend (sofar : Transcript) {raw expression : Text}
    {span : Span} (hraw : slice span e.source = raw) :
    step ctx e.blankFailures sofar (.placeholder raw expression span)
      = sofar.extend (e.renderPiece ctx sofar.turns
          (.placeholder span expression (Expression.parse expression))) := by
  rw [step, tryAll_eq_settle]
  cases hresult : (Expression.eval ctx sofar.turns
      (Expression.parse expression)).result with
  | ok value =>
    simp only [renderPiece, hresult, settle, tried, Transcript.extend,
      List.append_nil]
  | error reasons =>
    simp only [renderPiece, hresult, hraw, settle, tried,
      Transcript.extend, List.nil_append]

/-- Pieces add to a transcript what going through their segments does. -/
theorem foldl_step_eq_extend {segments : List Segment} {pieces : List Piece}
    (h : Compiled e.source segments pieces) (sofar : Transcript) :
    segments.foldl (step ctx e.blankFailures) sofar
      = sofar.extend (e.renderPieces ctx sofar.turns pieces) := by
  induction h generalizing sofar with
  | nil =>
    simp only [List.foldl_nil, renderPieces, Transcript.extend,
      List.append_nil]
  | @literal text span segments pieces htext hrest ih =>
    have hstep : step ctx e.blankFailures sofar (.literal text)
        = sofar.extend (e.renderPiece ctx sofar.turns (.literal span)) := by
      rw [step, renderPiece, htext]
      simp only [Transcript.extend, List.append_nil]
    rw [List.foldl_cons, renderPieces, Transcript.extend_append, hstep]
    exact ih _
  | @placeholder raw expression span segments pieces hraw hrest ih =>
    rw [List.foldl_cons, renderPieces, Transcript.extend_append,
      step_eq_extend sofar hraw]
    exact ih _

/-- The pieces of an engine are those of its template's segments. -/
theorem compiled_pieces (e : Engine) :
    Compiled e.source (Segment.scan e.source) e.pieces := by
  rw [e.compiled]
  exact Piece.compiled_compile e.source

/-- What an engine renders is what comes of reading its template anew. -/
theorem interpret_eq_pass (e : Engine) (turns : Turns) (data : Json) :
    interpret (e.context data) e.blankFailures turns e.source
      = { text := (e.pass turns data).text
          failures := (e.pass turns data).failures
          calls := (e.pass turns data).calls
          turns := (e.pass turns data).turns } := by
  rw [interpret, foldl_step_eq_extend e.compiled_pieces]
  simp only [Transcript.extend, List.nil_append, pass]

/-- What an engine renders, validated or not, is what a transcript
says. -/
structure Renders (e : Engine) (turns : Turns) (data : Json)
    (t : Transcript) : Prop where
  text_eq : (e.renderLossy turns data).1.result = t.text
  tells : t.Tells (e.renderLossy turns data)
  result_eq : ∀ validate, (e.render turns data validate).1.result
    = if validate && !t.failures.isEmpty then
        .error (.validation t.failures)
      else .ok t.text
  render_tells : ∀ validate, t.Tells (e.render turns data validate)

/-- An engine renders what comes of going through its template. -/
theorem renders_interpret (e : Engine) (turns : Turns) (data : Json) :
    e.Renders turns data
      (interpret (e.context data) e.blankFailures turns e.source) := by
  rw [interpret_eq_pass]
  refine ⟨rfl, ⟨rfl, rfl, rfl⟩, fun validate => ?_, fun validate => ?_⟩
  · rw [render_eq]
    simp
  · rw [render_eq]
    exact ⟨rfl, rfl, rfl⟩

/-- A failure has a reason for each alternative of its placeholder. -/
theorem length_reasons_of_mem_renderPieces {segments : List Segment}
    {pieces : List Piece} (h : Compiled e.source segments pieces)
    {turns : Turns} {failure : Failure}
    (hfailure : failure ∈ (e.renderPieces ctx turns pieces).failures) :
    failure.reasons.length
      = (Expression.parse failure.expression).length := by
  induction h generalizing turns with
  | nil => cases hfailure
  | literal _ _ ih =>
    rcases List.mem_append.1 hfailure with hfirst | hrest
    · cases hfirst
    · exact ih hrest
  | @placeholder raw expression span segments pieces hraw _ ih =>
    rcases List.mem_append.1 hfailure with hfirst | hrest
    · rw [renderPiece] at hfirst
      cases hresult : (Expression.eval ctx turns
          (Expression.parse expression)).result with
      | ok value =>
        simp only [hresult] at hfirst
        cases hfirst
      | error reasons =>
        simp only [hresult, List.mem_singleton] at hfirst
        subst hfirst
        exact Expression.length_of_eval_error hresult
    · exact ih hrest

/-- Rendering the pieces that were made beforehand gives the text, the
failures, the script calls and the turns of going through the template
anew, with or without validation; each failure has a reason for each
alternative; and the pieces cover the template from end to end. -/
theorem render_eq_interpret (e : Engine) (turns : Turns) (data : Json) :
    let reference :=
      interpret (e.context data) e.blankFailures turns e.source
    ((e.renderLossy turns data).1.result = reference.text
        ∧ reference.Tells (e.renderLossy turns data))
      ∧ (∀ validate,
        (e.render turns data validate).1.result
            = (if validate && !reference.failures.isEmpty then
                .error (.validation reference.failures)
              else .ok reference.text)
          ∧ reference.Tells (e.render turns data validate))
      ∧ reference.failures.map (fun failure => failure.reasons.length)
          = reference.failures.map (fun failure =>
              (Expression.parse failure.expression).length)
      ∧ Tiling 0 (byteLength e.source) (e.pieces.map Piece.span)
      ∧ e.pieces.map (fun piece => slice piece.span e.source)
          = (Segment.scan e.source).map Segment.source := by
  intro reference
  have hrenders : e.Renders turns data reference :=
    e.renders_interpret turns data
  have hfailures : reference.failures = (e.pass turns data).failures :=
    congrArg Transcript.failures (e.interpret_eq_pass turns data)
  refine ⟨⟨hrenders.text_eq, hrenders.tells⟩,
    fun validate => ⟨hrenders.result_eq validate, hrenders.render_tells validate⟩,
    ?_, ?_, Piece.map_slice_of_compiled e.compiled_pieces⟩
  · rw [hfailures]
    refine List.map_congr_left fun failure hfailure => ?_
    exact length_reasons_of_mem_renderPieces e.compiled_pieces hfailure
  · rw [e.compiled]
    exact Piece.tiling_compile e.source

end Engine

end Stencil
