/-
Which scripts a session calls, and what they return.

A session is told here as a ledger: the registrations made, the names
that stand for them, and the calls, in their order. An action that
registers scripts goes into the ledger as it was asked for
(`Ledger.act`), with the calls that scripts of another registry bring
along, and a rendering adds the calls that it makes. What these calls are
is said by rules, one for each way in which an alternative can be tried
(`Alternative.Tried`), a chain can go on, and a segment can be rendered.
The rules leave open what a script returns. That is settled by the
ledger: each call returns the value that the calls before it leave to its
registration (`InTurn`), whichever renderings made them.

# The argument

The turns count what the ledger has written down, and the registry has
the names of its book (`Ledger.Describes`). While this is so, trying an
alternative is one of the rules, with the value due (`tried_eval`); so
are chains and pieces, since the calls of two parts one after the other
are in turn when each is, counted from where the other has left off
(`Explains.append`). An action keeps ledger and session together
(`exists_step`), and so does a run.

Main statement: `accounts_run`.
-/
import Stencil.Engine.Session
import Stencil.Proofs.Interpreter
import Stencil.Proofs.Registration

namespace Stencil

open Text

-- ================================================ statement vocabulary

/-- A call of a script: the name that was referred to, the registration
that it stood for, and what came back. -/
structure Invocation where
  name : Text
  number : Nat
  returned : Json

/-- Each call is one of a registration of that name, and returns the
value whose turn it is; `called` are the calls before. -/
inductive InTurn (made : List Registration) :
    List Nat → List Invocation → Prop where
  | nil {called : List Nat} : InTurn made called []
  | cons {called : List Nat} {call : Invocation} {rest : List Invocation}
      {registration : Registration} :
      made[call.number]? = some registration →
      registration.name = call.name →
      call.returned = registration.value (called.count call.number) →
      InTurn made (called ++ [call.number]) rest →
      InTurn made called (call :: rest)

/-- Trying an alternative, with the calls made for it and what comes of
it. Only a reference to a registered script makes a call, and one that
returns `null` has been made all the same. -/
inductive Alternative.Tried (ctx : Context) (book : Book) :
    Alternative → List Invocation → Except Reason Json → Prop where
  | other {a : Alternative} (turns : Turns) :
      (∀ name, a ≠ .scriptRef name) →
      Tried ctx book a [] (a.eval ctx turns).result
  | unknown {name : Text} : book.lookup name = none →
      Tried ctx book (.scriptRef name) [] (.error (.unknownScript name))
  | null {name : Text} {number : Nat} : book.lookup name = some number →
      Tried ctx book (.scriptRef name) [⟨name, number, .null⟩]
        (.error .nullValue)
  | value {name : Text} {number : Nat} {v : Json} :
      book.lookup name = some number → v ≠ .null →
      Tried ctx book (.scriptRef name) [⟨name, number, v⟩] (.ok v)

/-- Trying a chain: up to the first alternative with a value, and no
further. -/
inductive Expression.Tried (ctx : Context) (book : Book) :
    Expression → List Invocation → Except (List Reason) Json → Prop where
  | nil : Tried ctx book [] [] (.error [])
  | value {a : Alternative} {calls : List Invocation} {v : Json}
      (rest : Expression) :
      a.Tried ctx book calls (.ok v) →
      Tried ctx book (a :: rest) calls (.ok v)
  | next {a : Alternative} {calls later : List Invocation}
      {reason : Reason} {rest : Expression}
      {result : Except (List Reason) Json} :
      a.Tried ctx book calls (.error reason) →
      Tried ctx book rest later result →
      Tried ctx book (a :: rest) (calls ++ later)
        (result.mapError (reason :: ·))

/-- Rendering segments, with the calls made for them, the text written
and the failures. -/
inductive Segment.Tried (ctx : Context) (book : Book) (blank : Bool) :
    List Segment → List Invocation → Text → List Failure → Prop where
  | nil : Tried ctx book blank [] [] [] []
  | literal {rest : List Segment} {calls : List Invocation} {t : Text}
      {fs : List Failure} (text : Text) :
      Tried ctx book blank rest calls t fs →
      Tried ctx book blank (.literal text :: rest) calls (text ++ t) fs
  | value {rest : List Segment} {calls later : List Invocation} {t : Text}
      {fs : List Failure} {expression : Text} {v : Json} (raw : Text)
      (span : Span) :
      (Expression.parse expression).Tried ctx book calls (.ok v) →
      Tried ctx book blank rest later t fs →
      Tried ctx book blank (.placeholder raw expression span :: rest)
        (calls ++ later) (v.display ++ t) fs
  | failed {rest : List Segment} {calls later : List Invocation}
      {t : Text} {fs : List Failure} {expression : Text}
      {reasons : List Reason} (raw : Text) (span : Span) :
      (Expression.parse expression).Tried ctx book calls
        (.error reasons) →
      Tried ctx book blank rest later t fs →
      Tried ctx book blank (.placeholder raw expression span :: rest)
        (calls ++ later) ((if blank then [] else raw) ++ t)
        (⟨expression, raw, reasons⟩ :: fs)

/-- What has happened in a session: the registrations made, the names
that scripts are found under, and the registrations called, by the session
or where they come from. -/
structure Ledger where
  made : List Registration
  book : Book
  called : List Nat

namespace Ledger

/-- Before anything has happened. -/
def empty : Ledger := ⟨[], [], []⟩

/-- A registration goes into the ledger if the name is one that a template
can refer to, with the calls that it has had elsewhere. -/
def register (l : Ledger) (script : Prepared) : Ledger :=
  if isIdentifier script.name then
    { made := l.made ++ [⟨script.name, script.values⟩]
      book := (script.name, l.made.length) :: l.book
      called := l.called ++ List.replicate script.called l.made.length }
  else l

/-- What an action registers. -/
def act (l : Ledger) : Action → Ledger
  | .registerScript name values => l.register ⟨name, values, 0⟩
  | .setRegistry scripts => scripts.foldl register { l with book := [] }
  | _ => l

/-- The ledger after an action and the calls made for it. -/
def after (l : Ledger) (action : Action) (calls : List Invocation) :
    Ledger :=
  { l.act action with
    called := (l.act action).called ++ calls.map Invocation.number }

/-- An action of a session, with the calls made for it. -/
structure Step (l : Ledger) (s : Session) (action : Action)
    (response : Response) (s' : Session) (calls : List Invocation) :
    Prop where
  /-- The calls are those that the caller is told of. -/
  names : response.calls = calls.map Invocation.name
  /-- None are made but for a rendering. -/
  quiet : action.rendering? = none → calls = []
  /-- A rendering makes them in going through the template, validated or
  not. -/
  rendered : ∀ data validate, action.rendering? = some (data, validate) →
    ∃ text failures,
      Segment.Tried (s.engine.context data) l.book s.engine.blankFailures
          (Segment.scan s.engine.source) calls text failures
        ∧ s'.engine.failures = failures
        ∧ response.answer
            = if validate && !failures.isEmpty then
                .refused (.validation failures)
              else .rendered text
  /-- Each returns what is due after all the calls before it. -/
  inTurn : InTurn l.made l.called calls
  /-- A registration that is still to be made has not been called. -/
  fresh : ∀ number, l.made.length ≤ number → l.called.count number = 0

/-- The actions of a session, one after the other, are accounted for. -/
inductive Accounts :
    Ledger → Session → List Action → List (Response × Session) → Prop where
  | nil (l : Ledger) (s : Session) : Accounts l s [] []
  | cons {l : Ledger} {s s' : Session} {action : Action}
      {response : Response} {calls : List Invocation}
      {more : List Action} {later : List (Response × Session)} :
      l.Step s action response s' calls →
      Accounts (l.after action calls) s' more later →
      Accounts l s (action :: more) ((response, s') :: later)

end Ledger

/-- The engine with other scripts. -/
def Engine.withScripts (e : Engine) (scripts : Registry) : Engine :=
  { e with scripts := scripts }

-- ============================================== calls one after the other

namespace InTurn

variable {made : List Registration} {called : List Nat}
  {a b : List Invocation}

theorem append (ha : InTurn made called a)
    (hb : InTurn made (called ++ a.map Invocation.number) b) :
    InTurn made called (a ++ b) := by
  induction ha with
  | nil =>
    rw [List.map_nil, List.append_nil] at hb
    exact hb
  | cons hmade hname hreturned _ ih =>
    refine .cons hmade hname hreturned (ih ?_)
    rw [List.append_assoc]
    exact hb

end InTurn

/-- The names of scripts called, and the turns that are left, are those
of calls that are in turn. -/
structure Explains (made : List Registration) (called : List Nat)
    (names : List Text) (turns : Turns) (calls : List Invocation) :
    Prop where
  names_eq : names = calls.map Invocation.name
  inTurn : InTurn made called calls
  follow : turns.Follow made (called ++ calls.map Invocation.number)

namespace Explains

variable {made : List Registration} {called : List Nat}
  {names names' : List Text} {turns turns' : Turns}
  {calls calls' : List Invocation}

/-- No calls leave the turns as they are. -/
theorem none (h : turns.Follow made called) :
    Explains made called [] turns [] := by
  refine ⟨rfl, .nil, ?_⟩
  rw [List.map_nil, List.append_nil]
  exact h

theorem append (h : Explains made called names turns calls)
    (h' : Explains made (called ++ calls.map Invocation.number) names'
      turns' calls') :
    Explains made called (names ++ names') turns' (calls ++ calls') := by
  refine ⟨?_, h.inTurn.append h'.inTurn, ?_⟩
  · rw [h.names_eq, h'.names_eq, List.map_append]
  · rw [List.map_append, ← List.append_assoc]
    exact h'.follow

end Explains

-- ============================================================== one render

section Rendering

variable {ctx : Context} {made : List Registration} {book : Book}
  {called : List Nat} {turns : Turns}
  (hbook : ctx.scripts.Follows made book)
include hbook

/-- Trying an alternative is one of the rules, with the value due. -/
theorem Alternative.tried_eval (hturns : turns.Follow made called)
    (a : Alternative) :
    ∃ calls, a.Tried ctx book calls (a.eval ctx turns).result
      ∧ Explains made called (a.eval ctx turns).calls
          (a.eval ctx turns).turns calls := by
  by_cases ha : ∃ name, a = .scriptRef name
  · obtain ⟨name, rfl⟩ := ha
    cases hlookup : book.lookup name with
    | none =>
      rw [eval_scriptRef_of_none turns (hbook.unbound name hlookup)]
      exact ⟨[], .unknown hlookup, .none hturns⟩
    | some number =>
      obtain ⟨r, hmade, hname, hfind⟩ := hbook.bound name number hlookup
      obtain ⟨hvalue, hfollow⟩ := hturns.call hmade
      have hexplains : ∀ v, v = r.value (called.count number) →
          Explains made called [name]
            (Script.call ⟨number, r.values.map Returned.toJson⟩ turns).2
            [⟨name, number, v⟩] := fun v hv =>
        ⟨rfl, .cons hmade hname hv .nil, hfollow⟩
      rw [eval_scriptRef_of_some turns hfind, hvalue]
      by_cases hnull : r.value (called.count number) = .null
      · refine ⟨[⟨name, number, .null⟩], ?_, hexplains _ hnull.symm⟩
        rw [hnull]
        exact .null hlookup
      · refine ⟨[⟨name, number, r.value (called.count number)⟩], ?_,
          hexplains _ rfl⟩
        have hisNull : (r.value (called.count number)).isNull = false := by
          cases hv : r.value (called.count number) with
          | null => exact absurd hv hnull
          | bool b | int i | float x | string t | array items
          | object members => rfl
        rw [hisNull]
        exact .value hlookup hnull
  · have hother : ∀ name, a ≠ .scriptRef name := fun name h =>
      ha ⟨name, h⟩
    refine ⟨[], .other turns hother, ?_⟩
    rw [eval_of_not_script ctx turns hother]
    exact .none hturns

/-- Trying a chain goes by the rules. -/
theorem Expression.tried_eval (hturns : turns.Follow made called)
    (x : Expression) :
    ∃ calls, x.Tried ctx book calls (Expression.eval ctx turns x).result
      ∧ Explains made called (Expression.eval ctx turns x).calls
          (Expression.eval ctx turns x).turns calls := by
  induction x generalizing turns called with
  | nil => exact ⟨[], .nil, .none hturns⟩
  | cons a rest ih =>
    obtain ⟨calls, htried, hexplains⟩ := a.tried_eval hbook hturns
    cases hfirst : (a.eval ctx turns).result with
    | ok value =>
      rw [hfirst] at htried
      rw [eval_cons_of_ok rest hfirst]
      exact ⟨calls, .value rest htried, hexplains⟩
    | error reason =>
      rw [hfirst] at htried
      obtain ⟨later, hlater, hexplains'⟩ := ih hexplains.follow
      rw [eval_cons_of_error rest hfirst]
      exact ⟨calls ++ later, .next htried hlater,
        hexplains.append hexplains'⟩

/-- Rendering pieces goes by the rules for their segments. -/
theorem Engine.tried_renderPieces {e : Engine} {segments : List Segment}
    {pieces : List Piece} (h : Compiled e.source segments pieces)
    (hturns : turns.Follow made called) :
    let r := e.renderPieces ctx turns pieces
    ∃ calls, Segment.Tried ctx book e.blankFailures segments calls r.text
        r.failures
      ∧ Explains made called r.calls r.turns calls := by
  induction h generalizing turns called with
  | nil => exact ⟨[], .nil, .none hturns⟩
  | @literal text span segments pieces htext _ ih =>
    obtain ⟨calls, htried, hexplains⟩ := ih hturns
    refine ⟨calls, ?_, hexplains⟩
    rw [← htext]
    exact .literal _ htried
  | @placeholder raw expression span segments pieces hraw _ ih =>
    obtain ⟨calls, htried, hexplains⟩ :=
      (Expression.parse expression).tried_eval hbook hturns
    obtain ⟨later, hlater, hexplains'⟩ := ih hexplains.follow
    refine ⟨calls ++ later, ?_⟩
    cases hresult : (Expression.eval ctx turns
        (Expression.parse expression)).result with
    | ok value =>
      rw [hresult] at htried
      simp only [renderPieces, renderPiece, hresult, Rendering.append,
        List.nil_append]
      exact ⟨.value raw span htried hlater, hexplains.append hexplains'⟩
    | error reasons =>
      rw [hresult] at htried
      simp only [renderPieces, renderPiece, hresult, hraw,
        Rendering.append]
      exact ⟨.failed raw span htried hlater,
        hexplains.append hexplains'⟩

end Rendering

-- ============================================================ one action

namespace Ledger

/-- A session is what its ledger says. -/
structure Describes (l : Ledger) (s : Session) : Prop where
  registry : s.engine.scripts.Follows l.made l.book
  turns : s.turns.Follow l.made l.called

/-- Without calls the ledger is as the action leaves it. -/
theorem after_nil (l : Ledger) (action : Action) :
    l.after action [] = l.act action := by
  rw [after, List.map_nil, List.append_nil]

/-- Taking over a script keeps registry and turns with the ledger. -/
theorem follows_register {l : Ledger} {r : Registry} {turns : Turns}
    (hr : r.Follows l.made l.book) (hturns : turns.Follow l.made l.called)
    (script : Prepared) (hname : isIdentifier script.name = true) :
    ∃ r', r.adopt turns script = .ok (r', turns.extendBy script.called)
      ∧ r'.Follows (l.register script).made (l.register script).book
      ∧ (turns.extendBy script.called).Follow (l.register script).made
          (l.register script).called := by
  obtain ⟨r', hadopt, hr'⟩ := hr.adopt hturns script hname
  refine ⟨r', hadopt, ?_⟩
  rw [register, if_pos hname]
  exact ⟨hr', hturns.extendBy _ script.called⟩

/-- So does taking over several. -/
theorem follows_adoptAll {l : Ledger} {r : Registry} {turns : Turns}
    (hr : r.Follows l.made l.book) (hturns : turns.Follow l.made l.called)
    (scripts : List Prepared) :
    let l' := scripts.foldl register l
    (r.adoptAll turns scripts).2.1.Follows l'.made l'.book
      ∧ (r.adoptAll turns scripts).2.2.Follow l'.made l'.called := by
  induction scripts generalizing l r turns with
  | nil => exact ⟨hr, hturns⟩
  | cons script more ih =>
    rw [Registry.adoptAll, List.foldl_cons]
    by_cases hname : isIdentifier script.name = true
    · obtain ⟨r', hadopt, hr', hturns'⟩ :=
        follows_register hr hturns script hname
      rw [hadopt]
      exact ih hr' hturns'
    · have hsame : l.register script = l := if_neg hname
      rw [r.adopt_refused turns script hname, hsame]
      exact ih hr hturns

/-- An action that renders nothing calls nothing. -/
theorem step_of_quiet {l : Ledger} {s s' : Session} {action : Action}
    (hl : l.Describes s) (answer : Answer)
    (haction : action.rendering? = none) :
    l.Step s action (Session.quiet answer) s' [] := by
  refine ⟨rfl, fun _ => rfl, ?_, .nil, fun _ => hl.turns.count_of_le⟩
  intro data validate h
  rw [haction] at h
  cases h

/-- A rendering makes the calls that its rules say. -/
theorem exists_step_of_rendering {l : Ledger} {s : Session}
    {action : Action} {data : Json} {validate : Bool} (hl : l.Describes s)
    (haction : action.rendering? = some (data, validate)) :
    let r := s.engine.pass s.turns data
    ∃ calls, l.Step s action (Session.told r validate)
        ⟨s.engine.record r.failures, r.turns⟩ calls
      ∧ (l.after action calls).Describes
          ⟨s.engine.record r.failures, r.turns⟩ := by
  intro r
  have hbook : (s.engine.context data).scripts.Follows l.made l.book :=
    hl.registry
  obtain ⟨calls, htried, hexplains⟩ :=
    Engine.tried_renderPieces hbook s.engine.compiled_pieces hl.turns
  have hact : l.act action = l := by
    cases action with
    | registerAlias | registerScript | setRegistry | setBlank => cases haction
    | render | renderLossy => rfl
  refine ⟨calls, ⟨hexplains.names_eq, ?_, ?_, hexplains.inTurn,
    fun _ => hl.turns.count_of_le⟩, ?_⟩
  · intro hquiet
    rw [haction] at hquiet
    cases hquiet
  · intro data' validate' hsame
    rw [haction] at hsame
    cases hsame
    exact ⟨r.text, r.failures, htried, rfl, rfl⟩
  · rw [after, hact]
    exact ⟨hl.registry, hexplains.follow⟩

/-- An action is accounted for, and keeps ledger and session together. -/
theorem exists_step {l : Ledger} {s s' : Session} {action : Action}
    {response : Response} (hl : l.Describes s)
    (h : s.Acts action response s') :
    ∃ calls, l.Step s action response s' calls
      ∧ (l.after action calls).Describes s' := by
  cases h with
  | rendered haction => exact exists_step_of_rendering hl haction
  | aliased | aliasRefused | blanked =>
    refine ⟨[], step_of_quiet hl _ rfl, ?_⟩
    rw [after_nil]
    exact ⟨hl.registry, hl.turns⟩
  | @scripted name values r turns hname hregister =>
    refine ⟨[], step_of_quiet hl .done rfl, ?_⟩
    obtain ⟨r', hadopt, hr', hturns'⟩ :=
      follows_register hl.registry hl.turns ⟨name, values, 0⟩ hname
    rw [Registry.register, hadopt] at hregister
    cases hregister
    rw [after_nil]
    exact ⟨hr', hturns'⟩
  | @scriptRefused name values hname =>
    refine ⟨[], step_of_quiet hl _ rfl, ?_⟩
    have hsame : l.act (.registerScript name values) = l := if_neg hname
    rw [after_nil, hsame]
    exact hl
  | replaced scripts =>
    let cleared : Ledger := { l with book := [] }
    have hempty : Registry.empty.Follows cleared.made cleared.book :=
      .empty l.made
    obtain ⟨hr', hturns'⟩ := follows_adoptAll hempty hl.turns scripts
    refine ⟨[], step_of_quiet hl _ rfl, ?_⟩
    rw [after_nil]
    exact ⟨hr', hturns'⟩

-- ============================================================= whole runs

/-- From a session that the ledger describes, a run is accounted for. -/
theorem accounts_of_describes {l : Ledger} {s : Session}
    (hl : l.Describes s) (actions : List Action) :
    l.Accounts s actions (s.run actions) := by
  induction actions generalizing l s with
  | nil => exact .nil l s
  | cons action more ih =>
    obtain ⟨calls, hstep, hafter⟩ := exists_step hl (s.acts_act action)
    exact .cons hstep (ih hafter)

/-- Whatever is done with an engine, the scripts called are those that its
renderings come to in going through the template, and each call returns
the value whose turn it is. -/
theorem accounts_run (e : Engine) (actions : List Action) :
    empty.Accounts (Session.start (e.withScripts .empty)) actions
      ((Session.start (e.withScripts .empty)).run actions) :=
  accounts_of_describes ⟨.empty [], .nil⟩ actions

end Ledger

end Stencil
