/-
Working with an engine over time.

A session is an engine with the count of its scripts' turns. `Action`
names what a caller can do, so that a whole history is a list; an action
that is refused leaves the session as it was, and only renderings call
scripts and log events. What an action can do is said once, by `Acts`;
what sessions keep and what they show is derived from that.
-/
import Stencil.Engine.Render

namespace Stencil

/-- An engine in use. -/
structure Session where
  engine : Engine
  turns : Turns

/-- What a caller can do. -/
inductive Action where
  | registerAlias (name path : Text)
  | registerScript (name : Text) (values : List Returned)
  /-- Replace all scripts by those of another registry, where they were
  registered and may have been called. -/
  | setRegistry (scripts : List Prepared)
  | setBlank (blank : Bool)
  | render (data : Json) (validate : Bool)
  | renderLossy (data : Json)

/-- Replace all scripts by new ones. -/
def Action.setScripts (scripts : List (Text × List Returned)) : Action :=
  .setRegistry (scripts.map fun (name, values) => ⟨name, values, 0⟩)

/-- What an action renders, and whether with validation. -/
def Action.rendering? : Action → Option (Json × Bool)
  | render data validate => some (data, validate)
  | renderLossy data => some (data, false)
  | _ => none

/-- What a caller is answered. -/
inductive Answer where
  | done
  | refused (error : TemplateError)
  /-- Which of several scripts were taken. -/
  | registered (answers : List (Except TemplateError Unit))
  | rendered (text : Text)

/-- An answer with the scripts called and the events logged for it. -/
structure Response where
  answer : Answer
  calls : List Text
  log : List Event

namespace Session

/-- The session that starts with an engine. -/
def start (e : Engine) : Session := ⟨e, []⟩

/-- A response of an action that renders nothing. -/
def quiet (answer : Answer) : Response := ⟨answer, [], []⟩

/-- Does what the caller wants. -/
def act (s : Session) : Action → Response × Session
  | .registerAlias name path =>
    match s.engine.registerAlias name path with
    | .ok e => (quiet .done, { s with engine := e })
    | .error refused => (quiet (.refused refused), s)
  | .registerScript name values =>
    match s.engine.registerScript s.turns name values with
    | .ok (e, turns) => (quiet .done, ⟨e, turns⟩)
    | .error refused => (quiet (.refused refused), s)
  | .setRegistry scripts =>
    let (answers, registry, turns) :=
      Registry.empty.adoptAll s.turns scripts
    (quiet (.registered answers),
      ⟨{ s.engine with scripts := registry }, turns⟩)
  | .setBlank blank =>
    (quiet .done, { s with engine.blankFailures := blank })
  | .render data validate =>
    let (effect, e) := s.engine.render s.turns data validate
    let answer :=
      match effect.result with
      | .ok text => .rendered text
      | .error refused => .refused refused
    (⟨answer, effect.calls, effect.log⟩, ⟨e, effect.turns⟩)
  | .renderLossy data =>
    let (effect, e) := s.engine.renderLossy s.turns data
    (⟨.rendered effect.result, effect.calls, effect.log⟩,
      ⟨e, effect.turns⟩)

/-- Does one thing after the other; each response comes with the session
after it. -/
def run (s : Session) : List Action → List (Response × Session)
  | [] => []
  | action :: more =>
    let (response, after) := s.act action
    (response, after) :: run after more

-- ====================================================== what an action does

variable (s : Session)

/-- What the caller of a rendering is told. -/
def told (r : Rendering) (validate : Bool) : Response :=
  let refused := validate && !r.failures.isEmpty
  { answer :=
      if refused then .refused (.validation r.failures)
      else .rendered r.text
    calls := r.calls
    log :=
      if refused then r.log ++ [.validationFailed r.failures.length]
      else r.log }

/-- Both ways of rendering are a pass, which is recorded; they differ in
what the caller is told of it. -/
theorem act_of_rendering {action : Action} {data : Json} {validate : Bool}
    (h : action.rendering? = some (data, validate)) :
    s.act action
      = (told (s.engine.pass s.turns data) validate,
        ⟨s.engine.record (s.engine.pass s.turns data).failures,
          (s.engine.pass s.turns data).turns⟩) := by
  cases action with
  | registerAlias | registerScript | setRegistry | setBlank => cases h
  | render data' validate' =>
    cases h
    simp only [act, Engine.render, told]
    by_cases hrefused :
        (validate && !(s.engine.pass s.turns data).failures.isEmpty) = true
    · simp only [if_pos hrefused]
    · simp only [if_neg hrefused]
  | renderLossy data' =>
    cases h
    simp only [act, Engine.renderLossy, told, Bool.false_and,
      Bool.false_eq_true, if_false]

/-- Everything that an action can do to a session, with the response. -/
inductive Acts : Action → Response → Session → Prop where
  | aliased {name : Text} (path : Text) :
      Text.isIdentifier name = true →
      Acts (.registerAlias name path) (quiet .done)
        { s with engine.aliases := s.engine.aliases.insert name path }
  | aliasRefused {name : Text} (path : Text) :
      ¬ Text.isIdentifier name = true →
      Acts (.registerAlias name path)
        (quiet (.refused (.invalidAlias name))) s
  | scripted {name : Text} {values : List Returned} {r : Registry}
      {turns : Turns} :
      Text.isIdentifier name = true →
      s.engine.scripts.register s.turns name values = .ok (r, turns) →
      Acts (.registerScript name values) (quiet .done)
        ⟨{ s.engine with scripts := r }, turns⟩
  | scriptRefused {name : Text} (values : List Returned) :
      ¬ Text.isIdentifier name = true →
      Acts (.registerScript name values)
        (quiet (.refused (.invalidScript name))) s
  | replaced (scripts : List Prepared) :
      Acts (.setRegistry scripts)
        (quiet (.registered
          (Registry.empty.adoptAll s.turns scripts).1))
        ⟨{ s.engine with
            scripts := (Registry.empty.adoptAll s.turns scripts).2.1 },
          (Registry.empty.adoptAll s.turns scripts).2.2⟩
  | blanked (blank : Bool) :
      Acts (.setBlank blank) (quiet .done)
        { s with engine.blankFailures := blank }
  | rendered {action : Action} {data : Json} {validate : Bool} :
      action.rendering? = some (data, validate) →
      Acts action (told (s.engine.pass s.turns data) validate)
        ⟨s.engine.record (s.engine.pass s.turns data).failures,
          (s.engine.pass s.turns data).turns⟩

theorem acts_act (action : Action) :
    s.Acts action (s.act action).1 (s.act action).2 := by
  cases action with
  | registerAlias name path =>
    simp only [act, Engine.registerAlias]
    by_cases hname : Text.isIdentifier name = true
    · simp only [if_pos hname]
      exact .aliased path hname
    · simp only [if_neg hname]
      exact .aliasRefused path hname
  | registerScript name values =>
    simp only [act, Engine.registerScript]
    by_cases hname : Text.isIdentifier name = true
    · obtain ⟨r, hregister, -⟩ :=
        s.engine.scripts.exists_register s.turns hname values
      simp only [hregister]
      exact .scripted hname hregister
    · simp only [s.engine.scripts.register_refused s.turns hname values]
      exact .scriptRefused values hname
  | setRegistry scripts => exact .replaced scripts
  | setBlank blank => exact .blanked blank
  | render data validate =>
    rw [s.act_of_rendering rfl]
    exact .rendered rfl
  | renderLossy data =>
    rw [s.act_of_rendering rfl]
    exact .rendered rfl

end Session

end Stencil
