/-
Rendering again what a rendering has kept.

A rendering that keeps its failures gives a text which is a template
again: the placeholders that had no value are still there. So a document
can be filled in from one source after another. This holds as long as
what is written for the others starts no placeholder of its own, alone or
with its neighbours (`Inert`), and as long as no script is called, which
would answer differently the next time (`Scriptless`).

# The argument

Scanning has to commute with writing values into the template, and this
is settled on symbols, joint by joint (`symbols_filled`). A value holds no
`$`, so that it becomes plain characters whatever stands behind it; a
literal is plain in the template, and what is written behind it starts
with no `{`, since it is a value or starts with `$` (`joins_filled`); a
placeholder that is kept, and the `${` that never ends, are what they
were. The symbols of the new template are those of the old one with the
values in their places, and going through them is going through the old
template with the values known (`resume`).

Main statement: `render_resumes`.
-/
import Stencil.Proofs.Inlining
import Stencil.Proofs.Symbols

namespace Stencil

open Text Segment

-- ================================================ statement vocabulary

/-- No alternative is a reference to a script. -/
def Expression.Scriptless (x : Expression) : Prop :=
  ∀ name, .scriptRef name ∉ x

/-- No placeholder of a template refers to a script. -/
def Scriptless (template : Text) : Prop :=
  ∀ m ∈ marks template, (Expression.parse m.2).Scriptless

/-- A text that can be written into a template without starting a
placeholder there. -/
def Inert (t : Text) : Prop := t ≠ [] ∧ '$' ∉ t ∧ '{' ∉ t

/-- The value of what stands in a placeholder, if it has one. -/
def Context.value? (ctx : Context) (turns : Turns) (expression : Text) :
    Option Json :=
  (Expression.eval ctx turns (Expression.parse expression)).result.toOption

namespace Interpreter

/-- Goes through one segment of a template of which some values are
known: a placeholder whose value is known gets that, and nothing is tried
for it. -/
def resume (known : Text → Option Json) (ctx : Context) (blank : Bool)
    (sofar : Transcript) : Segment → Transcript
  | .literal text => { sofar with text := sofar.text ++ text }
  | .placeholder raw expression span =>
    match known expression with
    | some value => { sofar with text := sofar.text ++ value.display }
    | none => step ctx blank sofar (.placeholder raw expression span)

/-- Goes through a template of which some values are known. -/
def resumed (known : Text → Option Json) (ctx : Context) (blank : Bool)
    (turns : Turns) (template : Text) : Transcript :=
  (scan template).foldl (resume known ctx blank) ⟨[], [], [], turns⟩

end Interpreter

/-- The engine with failures left out, or with failures kept. -/
def Engine.withBlank (e : Engine) (blank : Bool) : Engine :=
  { e with blankFailures := blank }

/-- What a failure says of its placeholder. -/
def Failure.mark (f : Failure) : Mark := (f.placeholder, f.expression)

-- ======================================================= without scripts

namespace Expression

/-- Without scripts, the turns are not looked at and stay as they are. -/
theorem eval_of_scriptless {x : Expression} (ctx : Context) (turns : Turns)
    (h : x.Scriptless) :
    eval ctx turns x
      = ⟨(eval ctx [] x).result, turns, [], (eval ctx [] x).log⟩ := by
  induction x with
  | nil => rfl
  | cons a rest ih =>
    have ha : ∀ name, a ≠ .scriptRef name := by
      rintro name rfl
      exact h name (List.mem_cons_self ..)
    have hrest : Scriptless rest := fun name hname =>
      h name (List.mem_cons_of_mem _ hname)
    have hfirst := Alternative.eval_of_not_script ctx turns ha
    have hfirst₀ := Alternative.eval_of_not_script ctx [] ha
    cases hresult : (a.eval ctx []).result with
    | ok value =>
      rw [hresult] at hfirst
      rw [eval_cons_of_ok rest (by rw [hfirst]),
        eval_cons_of_ok rest hresult, hfirst]
    | error reason =>
      have hturns : (a.eval ctx []).turns = [] := by rw [hfirst₀]
      rw [hresult] at hfirst
      rw [eval_cons_of_error rest (by rw [hfirst]),
        eval_cons_of_error rest hresult, hfirst, hturns, ih hrest]
      rfl

end Expression

/-- So the turns make no difference to a value. -/
theorem Context.value?_of_scriptless {text : Text} (ctx : Context)
    (turns turns' : Turns) (h : (Expression.parse text).Scriptless) :
    ctx.value? turns text = ctx.value? turns' text := by
  rw [value?, value?, Expression.eval_of_scriptless ctx turns h,
    Expression.eval_of_scriptless ctx turns' h]

namespace Interpreter

variable {ctx : Context} {blank : Bool} {raw expression : Text}
  {span : Span}

/-- A placeholder with a value is that value. -/
theorem step_of_known {value : Json} (turns : Turns) (sofar : Transcript)
    (hscripts : (Expression.parse expression).Scriptless)
    (hvalue : ctx.value? turns expression = some value) :
    step ctx blank sofar (.placeholder raw expression span)
      = { sofar with text := sofar.text ++ value.display } := by
  have heval := Expression.eval_of_scriptless ctx sofar.turns hscripts
  unfold Context.value? at hvalue
  rw [Expression.eval_of_scriptless ctx turns hscripts] at hvalue
  rw [step, tryAll_eq_settle, heval]
  cases hresult : (Expression.eval ctx []
      (Expression.parse expression)).result with
  | error reasons =>
    rw [hresult] at hvalue
    cases hvalue
  | ok found =>
    rw [hresult] at hvalue
    injection hvalue with hfound
    subst hfound
    simp only [settle, tried, List.append_nil]

/-- A placeholder without one is kept or left out, and is a failure for
reasons that do not change with the turns. -/
theorem exists_step_of_unknown {turns : Turns} (blank : Bool)
    (raw : Text) (span : Span)
    (hscripts : (Expression.parse expression).Scriptless)
    (hvalue : ctx.value? turns expression = none) :
    ∃ reasons, ∀ sofar : Transcript,
      step ctx blank sofar (.placeholder raw expression span)
        = { sofar with
            text := sofar.text ++ (if blank then [] else raw)
            failures := sofar.failures
              ++ [⟨expression, raw, reasons⟩] } := by
  unfold Context.value? at hvalue
  rw [Expression.eval_of_scriptless ctx turns hscripts] at hvalue
  cases hresult : (Expression.eval ctx []
      (Expression.parse expression)).result with
  | ok value =>
    rw [hresult] at hvalue
    cases hvalue
  | error reasons =>
    refine ⟨reasons, fun sofar => ?_⟩
    rw [step, tryAll_eq_settle,
      Expression.eval_of_scriptless ctx sofar.turns hscripts, hresult]
    simp only [settle, tried, List.append_nil, List.nil_append]

end Interpreter

-- ======================================================= what is written

/-- What a rendering that keeps its failures writes for a segment. -/
def Segment.filled (known : Text → Option Json) : Segment → Text
  | .literal text => text
  | .placeholder raw expression _ =>
    match known expression with
    | some value => value.display
    | none => raw

/-- The symbols of what it writes. -/
def Segment.filledSymbols (known : Text → Option Json) :
    Segment → List Symbol
  | .literal text => text.map .char
  | .placeholder raw expression _ =>
    match known expression with
    | some value => value.display.map .char
    | none => [.placeholder raw expression]

/-- The placeholders of segments are those of the first and the rest. -/
theorem mem_filterMap_mark?_cons {segment : Segment}
    {rest : List Segment} {m : Mark} (h : m ∈ rest.filterMap mark?) :
    m ∈ (segment :: rest).filterMap mark? := by
  obtain ⟨s, hs, hm⟩ := List.mem_filterMap.1 h
  exact List.mem_filterMap.2 ⟨s, List.mem_cons_of_mem _ hs, hm⟩

namespace Interpreter

variable {segments : List Segment}

/-- A rendering that keeps its failures writes the segments filled
in. -/
theorem foldl_step_filled (ctx : Context) (turns : Turns)
    (sofar : Transcript)
    (hscripts : ∀ m ∈ segments.filterMap mark?,
      (Expression.parse m.2).Scriptless) :
    (segments.foldl (step ctx false) sofar).text
      = sofar.text ++ segments.flatMap (filled (ctx.value? turns)) := by
  induction segments generalizing sofar with
  | nil => exact (List.append_nil _).symm
  | cons segment rest ih =>
    have hrest := ih (step ctx false sofar segment) fun m hm =>
      hscripts m (mem_filterMap_mark?_cons hm)
    rw [List.foldl_cons, hrest, List.flatMap_cons, ← List.append_assoc]
    refine congrArg (· ++ _) ?_
    cases segment with
    | literal text => rfl
    | placeholder raw expression span =>
      have hexpression : (Expression.parse expression).Scriptless :=
        hscripts (raw, expression) (List.mem_cons_self ..)
      cases hvalue : ctx.value? turns expression with
      | some value =>
        rw [step_of_known turns sofar hexpression hvalue]
        simp only [filled, hvalue]
      | none =>
        obtain ⟨reasons, hstep⟩ :=
          exists_step_of_unknown false raw span hexpression hvalue
        simp only [hstep, filled, hvalue, Bool.false_eq_true, if_false]

/-- A rendering fails for the placeholders without a value. -/
theorem foldl_step_marks (ctx : Context) (blank : Bool) (turns : Turns)
    (sofar : Transcript)
    (hscripts : ∀ m ∈ segments.filterMap mark?,
      (Expression.parse m.2).Scriptless) :
    (segments.foldl (step ctx blank) sofar).failures.map Failure.mark
      = sofar.failures.map Failure.mark
        ++ (segments.filterMap mark?).filter
          (fun m => (ctx.value? turns m.2).isNone) := by
  induction segments generalizing sofar with
  | nil => exact (List.append_nil _).symm
  | cons segment rest ih =>
    have hrest := ih (step ctx blank sofar segment) fun m hm =>
      hscripts m (mem_filterMap_mark?_cons hm)
    rw [List.foldl_cons, hrest, List.filterMap_cons]
    cases segment with
    | literal text => rfl
    | placeholder raw expression span =>
      have hexpression : (Expression.parse expression).Scriptless :=
        hscripts (raw, expression) (List.mem_cons_self ..)
      cases hvalue : ctx.value? turns expression with
      | some value =>
        rw [step_of_known turns sofar hexpression hvalue]
        simp only [mark?, hvalue, List.filter_cons, Option.isNone_some,
          Bool.false_eq_true, if_false]
      | none =>
        obtain ⟨reasons, hstep⟩ :=
          exists_step_of_unknown blank raw span hexpression hvalue
        simp only [hstep, mark?, hvalue, List.filter_cons,
          Option.isNone_none, if_true, List.append_assoc, List.map_append,
          List.map_cons, List.map_nil, List.singleton_append, Failure.mark]

/-- With the values of the same document, nothing is new but the
turns. -/
theorem foldl_resume_same {ctx : Context} {turns : Turns}
    (sofar : Transcript) (turns' : Turns)
    (hscripts : ∀ m ∈ segments.filterMap mark?,
      (Expression.parse m.2).Scriptless) :
    segments.foldl (resume (ctx.value? turns) ctx false)
        { sofar with turns := turns' }
      = { segments.foldl (step ctx false) sofar with turns := turns' } := by
  induction segments generalizing sofar with
  | nil => rfl
  | cons segment rest ih =>
    have hrest := ih (step ctx false sofar segment) fun m hm =>
      hscripts m (mem_filterMap_mark?_cons hm)
    rw [List.foldl_cons, List.foldl_cons, ← hrest]
    refine congrArg (rest.foldl _) ?_
    cases segment with
    | literal text => rfl
    | placeholder raw expression span =>
      have hexpression : (Expression.parse expression).Scriptless :=
        hscripts (raw, expression) (List.mem_cons_self ..)
      cases hvalue : ctx.value? turns expression with
      | some value =>
        rw [step_of_known turns sofar hexpression hvalue]
        simp only [resume, hvalue]
      | none =>
        obtain ⟨reasons, hstep⟩ :=
          exists_step_of_unknown false raw span hexpression hvalue
        rw [hstep]
        simp only [resume, hvalue, hstep]

end Interpreter

-- ================================================== what is scanned again

section Scanning

variable {known : Text → Option Json} {offset : Nat} {t : Text}

/-- No placeholder starts between a literal and what is written behind
it. -/
theorem joins_filled {text : Text} {rest : List Segment}
    (h : Segmentation offset t (.literal text :: rest))
    (hvalues : ∀ m ∈ rest.filterMap mark?, ∀ value,
      known m.2 = some value → Inert value.display) :
    Joins text (rest.flatMap (filled known)) := by
  intro _ hhead
  cases rest with
  | nil => cases hhead
  | cons next rest =>
    rw [List.flatMap_cons] at hhead
    cases next with
    | literal tail =>
      obtain ⟨-, ⟨more, rfl⟩, -⟩ := h.leads.2.2 tail rest rfl
      injection hhead with hdollar
      exact absurd hdollar (by decide)
    | placeholder raw expression span =>
      obtain ⟨body, -, rfl, -⟩ := h.behind.leads
      cases hvalue : known expression with
      | none =>
        simp only [filled, hvalue] at hhead
        injection hhead with hdollar
        exact absurd hdollar (by decide)
      | some value =>
        obtain ⟨hne, -, hbrace⟩ := hvalues (_, expression)
          (List.mem_cons_self ..) value hvalue
        simp only [filled, hvalue] at hhead
        obtain ⟨c, more, hdisplay⟩ := List.exists_cons_of_ne_nil hne
        rw [hdisplay] at hhead hbrace
        injection hhead with hc
        exact hbrace (hc ▸ List.mem_cons_self ..)

/-- The symbols of what is written for segments are those of the
segments, with values in the place of placeholders. -/
theorem symbols_filled {segments : List Segment}
    (h : Segmentation offset t segments)
    (hvalues : ∀ m ∈ segments.filterMap mark?, ∀ value,
      known m.2 = some value → Inert value.display) :
    symbols (segments.flatMap (filled known))
      = segments.flatMap (filledSymbols known) := by
  induction segments generalizing offset t with
  | nil => exact symbols_nil
  | cons segment rest ih =>
    have hvalues' : ∀ m ∈ rest.filterMap mark?, ∀ value,
        known m.2 = some value → Inert value.display :=
      fun m hm => hvalues m (mem_filterMap_mark?_cons hm)
    have hrest := ih h.behind hvalues'
    rw [List.flatMap_cons, List.flatMap_cons]
    cases segment with
    | literal text =>
      rcases h.leads.2.1 with hplain | ⟨rfl, htail⟩
      · rw [← hrest]
        exact symbols_plain_append hplain (joins_filled h hvalues')
      · rw [List.flatMap_nil, List.flatMap_nil, List.append_nil,
          List.append_nil]
        exact symbols_unterminated htail
    | placeholder raw expression span =>
      cases hvalue : known expression with
      | some value =>
        have hinert := hvalues (raw, expression) (List.mem_cons_self ..)
          value hvalue
        simp only [filled, filledSymbols, hvalue]
        rw [← hrest]
        exact symbols_append_of_no_dollar _ hinert.2.1
      | none =>
        obtain ⟨body, hbody, rfl, rfl, -⟩ := h.leads
        simp only [filled, filledSymbols, hvalue]
        rw [← hrest]
        exact symbols_placeholder_append _ hbody

/-- What stays a placeholder is what has no known value. -/
theorem filterMap_mark?_filledSymbols (segments : List Segment) :
    (segments.flatMap (filledSymbols known)).filterMap Symbol.mark?
      = (segments.filterMap mark?).filter
          (fun m => (known m.2).isNone) := by
  induction segments with
  | nil => rfl
  | cons segment rest ih =>
    rw [List.flatMap_cons, List.filterMap_append, ih, List.filterMap_cons]
    cases segment with
    | literal text =>
      rw [filledSymbols, filterMap_mark?_map_char]
      rfl
    | placeholder raw expression span =>
      cases hvalue : known expression with
      | some value =>
        simp only [filledSymbols, mark?, hvalue, filterMap_mark?_map_char,
          List.nil_append, List.filter_cons, Option.isNone_some,
          Bool.false_eq_true, if_false]
      | none =>
        simp only [filledSymbols, mark?, hvalue, List.filterMap_cons,
          List.filterMap_nil, Symbol.mark?, List.singleton_append,
          List.filter_cons, Option.isNone_none, if_true]

/-- Going through those symbols is going through the segments with the
values known. -/
theorem Interpreter.foldl_stepSymbol_filledSymbols {ctx : Context}
    {blank : Bool} (segments : List Segment) (sofar : Transcript) :
    (segments.flatMap (filledSymbols known)).foldl (stepSymbol ctx blank)
        sofar
      = segments.foldl (resume known ctx blank) sofar := by
  rw [List.foldl_flatMap]
  congr 1
  funext sofar segment
  cases segment with
  | literal text => exact foldl_stepSymbol_map_char text sofar
  | placeholder raw expression span =>
    cases hvalue : known expression with
    | some value =>
      simp only [filledSymbols, resume, hvalue]
      exact foldl_stepSymbol_map_char value.display sofar
    | none =>
      simp only [filledSymbols, resume, hvalue]
      rfl

end Scanning

-- ============================================================ rendering

namespace Engine

open Interpreter

variable {e : Engine} {turns : Turns} {first : Json}

/-- Let no placeholder refer to a script, and let all that is written for
values be inert. What comes of rendering with failures kept is a
template; its placeholders are those that have failed. Rendered with
another document, it comes to what the template comes to with the values
known and with nothing but the other placeholders tried, and rendered
with the same document it stays as it is and fails alike. -/
theorem render_resumes (hscripts : Scriptless e.source)
    (hvalues : ∀ m ∈ marks e.source, ∀ value,
      (e.context first).value? turns m.2 = some value →
        Inert value.display) :
    let known := (e.context first).value? turns
    let kept := (e.withBlank false).renderLossy turns first
    let next := e.withSource kept.1.result
    (marks next.source
          = (marks e.source).filter (fun m => (known m.2).isNone)
        ∧ marks next.source = kept.2.failures.map Failure.mark)
      ∧ (∀ blank turns' second, (next.withBlank blank).Renders turns' second
          (resumed known (e.context second) blank turns' e.source))
      ∧ ∀ turns',
        let again := (next.withBlank false).renderLossy turns' first
        again.1.result = kept.1.result
          ∧ again.2.failures = kept.2.failures := by
  intro known kept next
  have hsegmentation := segmentation_scanFrom 0 e.source
  -- what the first rendering writes, and for what it fails
  have hkept := (e.withBlank false).renders_interpret turns first
  have htext :=
    foldl_step_filled (e.context first) turns ⟨[], [], [], turns⟩ hscripts
  have hfailures := foldl_step_marks (e.context first) false turns
    ⟨[], [], [], turns⟩ hscripts
  have hresult : kept.1.result = (scan e.source).flatMap (filled known) :=
    hkept.text_eq.trans htext
  have hlist : kept.2.failures.map Failure.mark
      = (marks e.source).filter (fun m => (known m.2).isNone) :=
    (congrArg _ hkept.tells.2.2).trans hfailures
  -- the symbols of what it has written
  have hsymbols : symbols next.source
      = (scan e.source).flatMap (filledSymbols known) := by
    show symbols kept.1.result = _
    rw [hresult]
    exact symbols_filled hsegmentation hvalues
  have hmarks : marks next.source
      = (marks e.source).filter (fun m => (known m.2).isNone) := by
    rw [← filterMap_mark?_symbols, hsymbols, filterMap_mark?_filledSymbols]
    rfl
  have hresumed : ∀ blank turns' second,
      (next.withBlank blank).Renders turns' second
        (resumed known (e.context second) blank turns' e.source) := by
    intro blank turns' second
    have h := (next.withBlank blank).renders_interpret turns' second
    rw [interpret_eq_foldl_symbols] at h
    rw [show symbols (next.withBlank blank).source = _ from hsymbols,
      foldl_stepSymbol_filledSymbols] at h
    exact h
  refine ⟨⟨hmarks, hmarks.trans hlist.symm⟩, hresumed, fun turns' => ?_⟩
  have hagain := hresumed false turns' first
  have hsame : resumed known (e.context first) false turns' e.source
      = { interpret (e.context first) false turns e.source with
          turns := turns' } :=
    foldl_resume_same ⟨[], [], [], turns⟩ turns' hscripts
  rw [hsame] at hagain
  exact ⟨hagain.text_eq.trans hkept.text_eq.symm,
    hagain.tells.2.2.trans hkept.tells.2.2.symm⟩

theorem render_resumes_beside_dollar :
    let e := Engine.new "$$\x7ba\x7d$\x7b b ?? c \x7d$\x7b"
    let first := Json.object [(['a'], .int 1)]
    let second := Json.object [(['c'], .bool true)]
    let next := e.withSource
      ((e.withBlank false).renderLossy [] first).1.result
    Scriptless e.source
      ∧ (∀ m ∈ marks e.source, ∀ value,
        (e.context first).value? [] m.2 = some value → Inert value.display)
      ∧ next.source = "$1$\x7b b ?? c \x7d$\x7b"
      ∧ marks next.source
        = (marks e.source).filter
            (fun m => ((e.context first).value? [] m.2).isNone)
      ∧ (next.withBlank true).Renders [] second
          (resumed ((e.context first).value? []) (e.context second) true []
            e.source)
      ∧ ((next.withBlank true).renderLossy [] second).1.result
          = "$1true$\x7b" := by
  intro e first second next
  have hmarks : marks e.source
      = [(['$', '{', 'a', '}'], ['a']),
        (opening ++ " b ?? c " ++ ['}'], String.toList "b ?? c")] := by
    decide +kernel
  have ha : Expression.parse ['a'] = [.path [.field ['a']]] := by
    decide +kernel
  have hbc : Expression.parse "b ?? c"
      = [.path [.field ['b']], .path [.field ['c']]] := by
    decide +kernel
  have hscripts : Scriptless e.source := by
    intro m hm
    rw [hmarks] at hm
    rcases List.mem_cons.1 hm with rfl | hm
    · rw [ha]
      intro name
      simp
    · obtain rfl := List.mem_singleton.1 hm
      rw [hbc]
      intro name
      simp
  have hvalues : ∀ m ∈ marks e.source, ∀ value,
      (e.context first).value? [] m.2 = some value →
        Inert value.display := by
    intro m hm value hvalue
    rw [hmarks] at hm
    rcases List.mem_cons.1 hm with rfl | hm
    · rw [Context.value?, ha] at hvalue
      obtain rfl : Json.int 1 = value := Option.some.inj hvalue
      exact ⟨by decide, by decide, by decide⟩
    · obtain rfl := List.mem_singleton.1 hm
      rw [Context.value?, hbc] at hvalue
      cases hvalue
  have hresumes := render_resumes hscripts hvalues
  exact ⟨hscripts, hvalues, by decide +kernel, hresumes.1.1,
    hresumes.2.1 true [] second, by decide +kernel⟩

end Engine

end Stencil
