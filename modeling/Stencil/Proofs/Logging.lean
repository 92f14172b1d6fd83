/-
What the log tells of a rendering.

The log of a rendering is a row of blocks, one for each placeholder of the
template, and a closing line. Here the blocks are described by what has
happened and not by the code that writes them: a `Trial` says what there
is to be told of an alternative that was tried, a `Block` what there is to
be told of a placeholder, and `Alternative.Logs`, `Expression.Logs` and
`Segment.Logs` say when these are right.

# The argument

Events come from four places, and each is accounted for where it comes
from. What a walk logs is the field that it meets (`Proofs/Route`); what
trying an alternative logs is a trial that is right (`exists_trial`); a
chain adds the reason of each alternative that has failed
(`exists_trials`), and a placeholder whether it has got a value. One
induction over the pieces puts the blocks in a row (`exists_blocks`). What
is counted over the log is counted over the blocks.

Main statement: `log_accounts`.
-/
import Stencil.Proofs.Agreement
import Stencil.Proofs.Interpreter
import Stencil.Proofs.Route

namespace Stencil

open Text

-- ================================================ statement vocabulary

/-- What there is to be told of an alternative that was tried. -/
structure Trial where
  alternative : Alternative
  /-- The alias that was looked at, with the path that it stands for. -/
  expanding : Option (Text × Text)
  /-- The script that was called. -/
  invoking : Option Text
  /-- The field that should hold JSON and does not. -/
  undecoded : Option Path.Undecoded
  /-- Why there was no value. -/
  failed : Option Reason

/-- The events of a trial. -/
def Trial.events (t : Trial) : List Event :=
  (t.expanding.map fun entry => .expandingAlias entry.1 entry.2).toList
    ++ (t.invoking.map .invokingScript).toList
    ++ (t.undecoded.map fun met => .fieldNotDecoded met.1 met.2).toList
    ++ (t.failed.map (.alternativeFailed t.alternative)).toList

/-- What there is to be told of a placeholder. -/
structure Block where
  /-- The alternatives tried. -/
  trials : List Trial
  /-- What stands between the braces, if there was a value for it. -/
  resolved : Option Text

namespace Block

/-- The events of a block. -/
def events (b : Block) : List Event :=
  b.trials.flatMap Trial.events
    ++ (b.resolved.map .placeholderResolved).toList

/-- The scripts that a block has called. -/
def calls (b : Block) : List Text := b.trials.filterMap Trial.invoking

/-- Why each alternative has failed, if there was no value. -/
def reasons? (b : Block) : Option (List Reason) :=
  match b.resolved with
  | some _ => none
  | none => some (b.trials.filterMap Trial.failed)

end Block

/-- A trial tells of an alternative what has happened: it was a registered
alias, it was a registered script, the path that it follows met a field
that could not be decoded, and it had no value. -/
structure Alternative.Logs (ctx : Context) (turns : Turns) (a : Alternative)
    (t : Trial) : Prop where
  alternative : t.alternative = a
  expanding : ∀ name path, t.expanding = some (name, path)
    ↔ a = .aliasRef name ∧ ctx.aliases.find? name = some path
  invoking : ∀ name, t.invoking = some name
    ↔ a = .scriptRef name ∧ ctx.scripts.contains name = true
  undecoded : ∀ field e, t.undecoded = some (field, e)
    ↔ ∃ path, a.Follows ctx.aliases path
        ∧ Path.Meets ctx.jsonFields ctx.root path field e
  failed : ∀ reason, t.failed = some reason
    ↔ (a.eval ctx turns).result = .error reason

namespace Expression

/-- The alternatives of a chain that are tried, up to the first with a
value, each with the turns at that point. -/
def attempts (ctx : Context) (turns : Turns) :
    Expression → List (Alternative × Turns)
  | [] => []
  | a :: rest =>
    let tried := a.eval ctx turns
    (a, turns) ::
      match tried.result with
      | .ok _ => []
      | .error _ => attempts ctx tried.turns rest

/-- A block tells of a placeholder what has happened: each alternative
that was tried, in order, and whether one of them had a value. -/
structure Logs (ctx : Context) (turns : Turns) (text : Text) (b : Block) :
    Prop where
  trials : List.Forall₂ (fun attempt t => attempt.1.Logs ctx attempt.2 t)
    (attempts ctx turns (Expression.parse text)) b.trials
  resolved : ∀ expression, b.resolved = some expression
    ↔ expression = text
      ∧ ∃ attempt ∈ attempts ctx turns (Expression.parse text), ∃ value,
          (attempt.1.eval ctx attempt.2).result = .ok value

end Expression

/-- There is a block for each placeholder, in order, from the turns that
those in front of it have left. -/
inductive Segment.Logs (ctx : Context) :
    Turns → List Segment → List Block → Prop where
  | nil (turns : Turns) : Logs ctx turns [] []
  | literal {turns : Turns} {rest : List Segment} {blocks : List Block}
      (text : Text) :
      Logs ctx turns rest blocks →
      Logs ctx turns (.literal text :: rest) blocks
  | placeholder {turns : Turns} {rest : List Segment} {b : Block}
      {blocks : List Block} {expression : Text} (raw : Text) (span : Span) :
      Expression.Logs ctx turns expression b →
      Logs ctx (Expression.eval ctx turns (.parse expression)).turns rest
        blocks →
      Logs ctx turns (.placeholder raw expression span :: rest)
        (b :: blocks)

namespace Event

/-- The script that an event says was called. -/
def script? : Event → Option Text
  | invokingScript script => some script
  | _ => none

/-- The expression that an event says has got a value. -/
def resolved? : Event → Option Text
  | placeholderResolved expression => some expression
  | _ => none

end Event

-- ====================================================== one alternative

/-- The reason why there is no value, if there is none. -/
def failure? {α : Type} : Except Reason α → Option Reason
  | .ok _ => none
  | .error reason => some reason

theorem failure?_eq_some_iff {α : Type} {result : Except Reason α}
    {reason : Reason} :
    failure? result = some reason ↔ result = .error reason := by
  cases result with
  | ok value => exact ⟨nofun, nofun⟩
  | error other => simp only [failure?, Option.some.injEq, Except.error.injEq]

namespace Alternative

/-- The alias that is looked at when an alternative is tried, with the path
that it stands for. -/
def expanding? (aliases : Table Text) : Alternative → Option (Text × Text)
  | .aliasRef name => (aliases.find? name).map (name, ·)
  | _ => none

/-- The script that is called when an alternative is tried. -/
def invoking? (scripts : Registry) : Alternative → Option Text
  | .scriptRef name => if scripts.contains name then some name else none
  | _ => none

/-- The path that is followed when an alternative is tried. -/
def path? (aliases : Table Text) : Alternative → Option Path
  | .path p => some p
  | .aliasRef name =>
    (aliases.find? name).bind fun target => (Path.parse target).toOption
  | _ => none

variable {aliases : Table Text} {scripts : Registry} {a : Alternative}

theorem expanding?_eq_some_iff {name target : Text} :
    a.expanding? aliases = some (name, target)
      ↔ a = .aliasRef name ∧ aliases.find? name = some target := by
  cases a with
  | aliasRef other =>
    simp only [expanding?, Option.map_eq_some_iff, Prod.mk.injEq,
      aliasRef.injEq]
    constructor
    · rintro ⟨_, hfind, rfl, rfl⟩
      exact ⟨rfl, hfind⟩
    · rintro ⟨rfl, hfind⟩
      exact ⟨target, hfind, rfl, rfl⟩
  | path | scriptRef | invalid => simp only [expanding?, reduceCtorEq, false_and]

theorem invoking?_eq_some_iff {name : Text} :
    a.invoking? scripts = some name
      ↔ a = .scriptRef name ∧ scripts.contains name = true := by
  cases a with
  | scriptRef other =>
    simp only [invoking?, scriptRef.injEq]
    constructor
    · intro h
      by_cases hcontains : scripts.contains other = true
      · rw [if_pos hcontains] at h
        cases h
        exact ⟨rfl, hcontains⟩
      · rw [if_neg hcontains] at h
        cases h
    · rintro ⟨rfl, hcontains⟩
      rw [if_pos hcontains]
  | path | aliasRef | invalid => simp only [invoking?, reduceCtorEq, false_and]

theorem path?_eq_some_iff {p : Path} :
    a.path? aliases = some p ↔ a.Follows aliases p := by
  constructor
  · intro h
    cases a with
    | path q =>
      cases h
      exact .path p
    | aliasRef name =>
      obtain ⟨target, hfind, hparse⟩ := Option.bind_eq_some_iff.1 h
      cases htarget : Path.parse target with
      | error why =>
        rw [htarget] at hparse
        cases hparse
      | ok q =>
        rw [htarget] at hparse
        cases hparse
        exact .target hfind htarget
    | scriptRef | invalid => cases h
  · intro h
    cases h with
    | path => rfl
    | target hfind htarget =>
      rw [path?, hfind, Option.bind_some, htarget]
      rfl

/-- What trying an alternative logs: that an alias is looked at, that a
script is called, and what a walk logs. -/
theorem log_eval (ctx : Context) (turns : Turns) (a : Alternative) :
    (a.eval ctx turns).log
      = ((a.expanding? ctx.aliases).map fun entry =>
            Event.expandingAlias entry.1 entry.2).toList
        ++ ((a.invoking? ctx.scripts).map Event.invokingScript).toList
        ++ (a.path? ctx.aliases).toList.flatMap fun p =>
            (ctx.follow turns p).log := by
  cases a with
  | path p => simp [expanding?, invoking?, path?, eval]
  | invalid text why => rfl
  | aliasRef name =>
    simp only [eval, expanding?, invoking?, path?]
    cases ctx.aliases.find? name with
    | none => rfl
    | some target =>
      cases htarget : Path.parse target with
      | error why => simp [htarget, Except.toOption]
      | ok p => simp [htarget, Except.toOption]
  | scriptRef name =>
    have hcontains : ctx.scripts.contains name
        = (ctx.scripts.find? name).isSome := rfl
    simp only [expanding?, invoking?, path?, hcontains]
    cases hfind : ctx.scripts.find? name with
    | none =>
      rw [eval_scriptRef_of_none turns hfind]
      rfl
    | some script =>
      rw [eval_scriptRef_of_some turns hfind]
      rfl

/-- The scripts called in trying an alternative. -/
theorem calls_eval (ctx : Context) (turns : Turns) (a : Alternative) :
    (a.eval ctx turns).calls = (a.invoking? ctx.scripts).toList := by
  by_cases hscript : ∃ name, a = .scriptRef name
  · obtain ⟨name, rfl⟩ := hscript
    have hcontains : ctx.scripts.contains name
        = (ctx.scripts.find? name).isSome := rfl
    rw [invoking?, hcontains]
    cases hfind : ctx.scripts.find? name with
    | none =>
      rw [eval_scriptRef_of_none turns hfind]
      rfl
    | some script =>
      rw [eval_scriptRef_of_some turns hfind]
      rfl
  · have hother : ∀ name, a ≠ .scriptRef name := fun name h =>
      hscript ⟨name, h⟩
    rw [eval_of_not_script ctx turns hother]
    cases a with
    | scriptRef name => exact absurd rfl (hother name)
    | path | aliasRef | invalid => rfl

/-- Following the path of an alternative logs the field that is met on
it. -/
theorem exists_met (ctx : Context) (turns : Turns) (a : Alternative) :
    ∃ met : Option Path.Undecoded,
      ((a.path? ctx.aliases).toList.flatMap fun p =>
            (ctx.follow turns p).log)
          = (met.map fun met => Event.fieldNotDecoded met.1 met.2).toList
        ∧ ∀ field e, met = some (field, e)
          ↔ ∃ p, a.Follows ctx.aliases p
              ∧ Path.Meets ctx.jsonFields ctx.root p field e := by
  simp only [← path?_eq_some_iff]
  cases a.path? ctx.aliases with
  | none => exact ⟨none, rfl, fun field e => ⟨nofun, fun ⟨_, h, _⟩ => nomatch h⟩⟩
  | some p =>
    obtain ⟨met, hwalk, hmet⟩ :=
      Path.exists_undecoded_walk ctx.jsonFields ctx.root p
    refine ⟨met, ?_, fun field e => ?_⟩
    · rw [Option.toList_some, List.flatMap_singleton]
      show (Path.walk ctx.jsonFields ctx.root p).undecoded.map _ = _
      rw [hwalk]
      cases met <;> rfl
    · rw [hmet]
      constructor
      · exact fun h => ⟨p, rfl, h⟩
      · rintro ⟨q, hq, h⟩
        cases hq
        exact h

/-- Trying an alternative logs the events of a trial that is right, but for
its failure. -/
theorem exists_trial (ctx : Context) (turns : Turns) (a : Alternative) :
    ∃ t : Trial, a.Logs ctx turns t
      ∧ t.events = (a.eval ctx turns).log
          ++ ((failure? (a.eval ctx turns).result).map
                (Event.alternativeFailed a)).toList
      ∧ t.invoking.toList = (a.eval ctx turns).calls
      ∧ t.failed = failure? (a.eval ctx turns).result := by
  obtain ⟨met, hlog, hmet⟩ := exists_met ctx turns a
  refine ⟨⟨a, a.expanding? ctx.aliases, a.invoking? ctx.scripts, met,
    failure? (a.eval ctx turns).result⟩,
    ⟨rfl, fun _ _ => expanding?_eq_some_iff, fun _ => invoking?_eq_some_iff,
      hmet, fun _ => failure?_eq_some_iff⟩, ?_,
    (calls_eval ctx turns a).symm, rfl⟩
  rw [log_eval, hlog]
  rfl

end Alternative

-- ============================================================= one chain

namespace Expression

/-- A chain has a value if one of the alternatives tried has. -/
theorem exists_value_iff (ctx : Context) (turns : Turns) (x : Expression) :
    (∃ value, (eval ctx turns x).result = .ok value)
      ↔ ∃ attempt ∈ attempts ctx turns x, ∃ value,
          (attempt.1.eval ctx attempt.2).result = .ok value := by
  induction x generalizing turns with
  | nil =>
    constructor
    · rintro ⟨value, hvalue⟩
      cases hvalue
    · rintro ⟨attempt, hmem, -⟩
      cases hmem
  | cons a rest ih =>
    rw [attempts, List.exists_mem_cons_iff]
    cases hfirst : (a.eval ctx turns).result with
    | ok value =>
      rw [eval_cons_of_ok rest hfirst]
      simp
    | error reason =>
      rw [eval_cons_of_error rest hfirst]
      simp only [← ih, reduceCtorEq, exists_false, false_or]
      cases (eval ctx (a.eval ctx turns).turns rest).result <;> simp

/-- Trying a chain logs the trials of its alternatives, calls what these
call, and fails for their reasons. -/
theorem exists_trials (ctx : Context) (turns : Turns) (x : Expression) :
    ∃ trials : List Trial,
      List.Forall₂ (fun attempt t => attempt.1.Logs ctx attempt.2 t)
          (attempts ctx turns x) trials
        ∧ (eval ctx turns x).log = trials.flatMap Trial.events
        ∧ (eval ctx turns x).calls = trials.filterMap Trial.invoking
        ∧ ∀ reasons, (eval ctx turns x).result = .error reasons →
          trials.filterMap Trial.failed = reasons := by
  simp only [List.filterMap_eq_flatMap_toList]
  induction x generalizing turns with
  | nil =>
    refine ⟨[], .nil, rfl, rfl, fun reasons h => ?_⟩
    cases h
    rfl
  | cons a rest ih =>
    obtain ⟨t, hlogs, hevents, hcalls, hfailed⟩ := a.exists_trial ctx turns
    cases hfirst : (a.eval ctx turns).result with
    | ok value =>
      rw [hfirst] at hevents
      rw [eval_cons_of_ok rest hfirst, attempts, hfirst]
      refine ⟨[t], .cons hlogs .nil, ?_, ?_, nofun⟩
      · rw [List.flatMap_singleton, hevents]
        exact (List.append_nil _).symm
      · rw [List.flatMap_singleton, hcalls]
    | error reason =>
      rw [hfirst] at hevents hfailed
      obtain ⟨trials, htrials, hlog, hcalls', hreasons⟩ :=
        ih (a.eval ctx turns).turns
      rw [eval_cons_of_error rest hfirst, attempts, hfirst]
      refine ⟨t :: trials, .cons hlogs htrials, ?_, ?_, fun reasons h => ?_⟩
      · rw [List.flatMap_cons, hevents, hlog, List.append_assoc]
        rfl
      · rw [List.flatMap_cons, hcalls, hcalls']
      · rw [List.flatMap_cons, hfailed]
        cases hrest : (eval ctx (a.eval ctx turns).turns rest).result with
        | ok value =>
          rw [hrest] at h
          cases h
        | error others =>
          rw [hrest] at h
          cases h
          rw [hreasons others hrest]
          rfl

end Expression

-- ========================================================== the template

/-- A rendering has logged these blocks, has called what they call, and has
failed where they have no value. -/
structure Rendering.Tells (r : Rendering) (blocks : List Block) : Prop where
  log_eq : r.log = blocks.flatMap Block.events
  calls_eq : r.calls = blocks.flatMap Block.calls
  reasons_eq : r.failures.map Failure.reasons
    = blocks.filterMap Block.reasons?

/-- One part behind the other logs the blocks of both. -/
theorem Rendering.Tells.append {r r' : Rendering} {blocks blocks' : List Block}
    (h : r.Tells blocks) (h' : r'.Tells blocks') :
    (r.append r').Tells (blocks ++ blocks') where
  log_eq := by
    rw [List.flatMap_append, ← h.log_eq, ← h'.log_eq]
    rfl
  calls_eq := by
    rw [List.flatMap_append, ← h.calls_eq, ← h'.calls_eq]
    rfl
  reasons_eq := by
    rw [List.filterMap_append, ← h.reasons_eq, ← h'.reasons_eq]
    exact List.map_append

namespace Engine

/-- A placeholder logs a block that is right. -/
theorem exists_block (e : Engine) (ctx : Context) (turns : Turns)
    (span : Span) (text : Text) :
    ∃ b : Block, Expression.Logs ctx turns text b
      ∧ (e.renderPiece ctx turns
          (.placeholder span text (Expression.parse text))).Tells [b] := by
  obtain ⟨trials, htrials, hlog, hcalls, hreasons⟩ :=
    Expression.exists_trials ctx turns (Expression.parse text)
  have hvalue := Expression.exists_value_iff ctx turns
    (Expression.parse text)
  cases hresult : (Expression.eval ctx turns
      (Expression.parse text)).result with
  | ok value =>
    refine ⟨⟨trials, some text⟩, ⟨htrials, fun expression => ?_⟩, ?_, ?_, ?_⟩
    · rw [← hvalue, hresult]
      simp [eq_comm]
    · simp [renderPiece, hresult, hlog, Block.events]
    · simp [renderPiece, hresult, hcalls, Block.calls]
    · simp [renderPiece, hresult, Block.reasons?]
  | error reasons =>
    refine ⟨⟨trials, none⟩, ⟨htrials, fun expression => ?_⟩, ?_, ?_, ?_⟩
    · rw [← hvalue, hresult]
      simp
    · simp [renderPiece, hresult, hlog, Block.events]
    · simp [renderPiece, hresult, hcalls, Block.calls]
    · simp [renderPiece, hresult, Block.reasons?, hreasons reasons hresult]

/-- Pieces log a block for each placeholder. -/
theorem exists_blocks {e : Engine} {segments : List Segment}
    {pieces : List Piece} (h : Compiled e.source segments pieces)
    (ctx : Context) (turns : Turns) :
    ∃ blocks : List Block, Segment.Logs ctx turns segments blocks
      ∧ (pieces.filterMap Piece.text?).length = blocks.length
      ∧ (e.renderPieces ctx turns pieces).Tells blocks := by
  induction h generalizing turns with
  | nil => exact ⟨[], .nil turns, rfl, rfl, rfl, rfl⟩
  | @literal text span segments pieces htext hrest ih =>
    obtain ⟨blocks, hlogs, hlength, htells⟩ := ih turns
    have hfirst : (e.renderPiece ctx turns (.literal span)).Tells [] :=
      ⟨rfl, rfl, rfl⟩
    exact ⟨blocks, .literal text hlogs, hlength, hfirst.append htells⟩
  | @placeholder raw expression span segments pieces hraw hrest ih =>
    obtain ⟨b, hb, hfirst⟩ := exists_block e ctx turns span expression
    have hturns : (e.renderPiece ctx turns
          (.placeholder span expression (Expression.parse expression))).turns
        = (Expression.eval ctx turns (.parse expression)).turns := by
      rw [renderPiece]
      cases (Expression.eval ctx turns (.parse expression)).result <;> rfl
    obtain ⟨blocks, hlogs, hlength, htells⟩ := ih _
    refine ⟨b :: blocks, .placeholder raw span hb hlogs,
      congrArg (· + 1) hlength, ?_⟩
    rw [← hturns] at htells
    exact hfirst.append htells

end Engine

-- ================================================================ counts

theorem Trial.filterMap_script?_events (t : Trial) :
    t.events.filterMap Event.script? = t.invoking.toList := by
  obtain ⟨alternative, expanding, invoking, undecoded, failed⟩ := t
  cases expanding <;> cases invoking <;> cases undecoded <;> cases failed
    <;> rfl

theorem Trial.filterMap_resolved?_events (t : Trial) :
    t.events.filterMap Event.resolved? = [] := by
  obtain ⟨alternative, expanding, invoking, undecoded, failed⟩ := t
  cases expanding <;> cases invoking <;> cases undecoded <;> cases failed
    <;> rfl

namespace Block

/-- The events of a block name the scripts that it has called. -/
theorem filterMap_script?_events (b : Block) :
    b.events.filterMap Event.script? = b.calls := by
  rw [events, List.filterMap_append, List.filterMap_flatMap, calls,
    List.filterMap_eq_flatMap_toList Trial.invoking]
  simp only [Trial.filterMap_script?_events]
  cases b.resolved <;> exact List.append_nil _

/-- One event of a block tells of its value, if there is one. -/
theorem filterMap_resolved?_events (b : Block) :
    b.events.filterMap Event.resolved? = b.resolved.toList := by
  rw [events, List.filterMap_append, List.filterMap_flatMap]
  have hnone : (b.trials.flatMap fun t =>
      t.events.filterMap Event.resolved?) = [] :=
    List.flatMap_eq_nil_iff.2 fun t _ => t.filterMap_resolved?_events
  rw [hnone]
  cases b.resolved <;> rfl

/-- A block has a value or reasons why it has none. -/
theorem length_filterMap_resolved_add (blocks : List Block) :
    (blocks.filterMap resolved).length + (blocks.filterMap reasons?).length
      = blocks.length := by
  induction blocks with
  | nil => rfl
  | cons b rest ih =>
    cases hresolved : b.resolved with
    | none =>
      have hreasons : b.reasons? = some (b.trials.filterMap Trial.failed) := by
        rw [reasons?, hresolved]
      rw [List.filterMap_cons_none hresolved,
        List.filterMap_cons_some hreasons, List.length_cons,
        List.length_cons]
      omega
    | some text =>
      have hreasons : b.reasons? = none := by
        rw [reasons?, hresolved]
      rw [List.filterMap_cons_some hresolved,
        List.filterMap_cons_none hreasons, List.length_cons,
        List.length_cons]
      omega

end Block

namespace Engine

/-- A rendering logs what the pass does, and that it is refused if it
is. -/
theorem log_render (e : Engine) (turns : Turns) (data : Json)
    (validate : Bool) :
    (e.render turns data validate).1.log
      = (e.pass turns data).log
        ++ (if validate = true ∧ (e.pass turns data).failures ≠ [] then
            [.validationFailed (e.pass turns data).failures.length]
          else []) := by
  rw [render_eq]

theorem calls_render (e : Engine) (turns : Turns) (data : Json)
    (validate : Bool) :
    (e.render turns data validate).1.calls = (e.pass turns data).calls := by
  rw [render_eq]

/-- The lines at the end of a log name no expression and no script. -/
theorem filterMap_closing (f : Event → Option Text)
    (hfinished : ∀ m n, f (.renderFinished m n) = none)
    (hrefused : ∀ n, f (.validationFailed n) = none) (blocks : List Block)
    (placeholders failures : Nat) (refused : Prop) [Decidable refused] :
    (blocks.flatMap Block.events
          ++ [Event.renderFinished placeholders failures]
        ++ (if refused then [Event.validationFailed failures]
          else [])).filterMap f
      = blocks.flatMap fun b => b.events.filterMap f := by
  have hlast : (if refused then [Event.validationFailed failures]
      else []).filterMap f = [] := by
    by_cases h : refused
    · rw [if_pos h, List.filterMap_cons_none (hrefused _)]
      rfl
    · rw [if_neg h]
      rfl
  rw [List.filterMap_append, hlast, List.append_nil, List.filterMap_append,
    List.filterMap_cons_none (hfinished _ _), List.filterMap_flatMap]
  exact List.append_nil _

/-- The log of a rendering is one block for each placeholder, in the order
of the template, and a closing line with the numbers of placeholders and
failures; behind it the refusal is logged if the result is refused. So
each placeholder is either logged as resolved or recorded as a failure,
the scripts that the log names are those called, and the reasons of a
failure are those that its block has logged. -/
theorem log_accounts (e : Engine) (turns : Turns) (data : Json)
    (validate : Bool) :
    let rendered := e.render turns data validate
    let log := rendered.1.log
    let failures := rendered.2.failures
    (∃ blocks : List Block,
      Segment.Logs (e.context data) turns (Segment.scan e.source) blocks
        ∧ log = blocks.flatMap Block.events
            ++ [.renderFinished e.placeholders.length failures.length]
            ++ (if validate = true ∧ failures ≠ [] then
                [.validationFailed failures.length] else [])
        ∧ blocks.length = e.placeholders.length
        ∧ failures.map Failure.reasons = blocks.filterMap Block.reasons?)
      ∧ (log.filterMap Event.resolved?).length + failures.length
          = e.placeholders.length
      ∧ log.filterMap Event.script? = rendered.1.calls
      ∧ (e.renderLossy turns data).1.log
          = (e.render turns data false).1.log := by
  obtain ⟨blocks, hlogs, hlength, htells⟩ :=
    exists_blocks e.compiled_pieces (e.context data) turns
  have hlog := log_render e turns data validate
  have hcalls : (e.render turns data validate).1.calls
      = blocks.flatMap Block.calls := by
    rw [calls_render, ← htells.calls_eq]
    rfl
  have hpass : (e.pass turns data).log
      = blocks.flatMap Block.events
        ++ [.renderFinished e.placeholders.length
          (e.pass turns data).failures.length] := by
    rw [← htells.log_eq]
    rfl
  have hreasons : (e.pass turns data).failures.map Failure.reasons
      = blocks.filterMap Block.reasons? := htells.reasons_eq
  have hcount := Block.length_filterMap_resolved_add blocks
  rw [← hreasons, List.length_map] at hcount
  rw [hpass] at hlog
  intro rendered log failures
  refine ⟨⟨blocks, hlogs, hlog, hlength.symm, hreasons⟩, ?_, ?_, ?_⟩
  · show ((e.render turns data validate).1.log.filterMap
      Event.resolved?).length + _ = _
    rw [hlog, filterMap_closing Event.resolved? (fun _ _ => rfl) (fun _ => rfl)]
    simp only [Block.filterMap_resolved?_events,
      ← List.filterMap_eq_flatMap_toList]
    exact hcount.trans hlength.symm
  · show (e.render turns data validate).1.log.filterMap Event.script? = _
    rw [hlog, filterMap_closing Event.script? (fun _ _ => rfl) (fun _ => rfl)]
    simp only [Block.filterMap_script?_events]
    exact hcalls.symm
  · rw [log_render, if_neg (fun h => Bool.false_ne_true h.1), List.append_nil]
    rfl

end Engine

end Stencil
