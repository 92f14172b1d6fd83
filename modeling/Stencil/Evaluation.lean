/-
Getting a value for an expression.

The alternatives of an expression are tried from left to right, and the
first that gives a value ends it; those behind are not looked at, so
their scripts are not called. An alias stands for a path and for nothing
else: what it stands for is read when the alias is tried, and is never
taken for a chain, a reference or another alias. A script that returns
`null` has been called and gives no value.

Trying an alternative moves the turns of the scripts, calls scripts and
logs events, and says so in an `Effect`.
-/
import Stencil.Event
import Stencil.Expression
import Stencil.Path.Walk
import Stencil.Script

namespace Stencil

/-- What expressions are evaluated against. -/
structure Context where
  root : Json
  /-- The fields that hold JSON in a string. -/
  jsonFields : List Text
  /-- The paths that aliases stand for. -/
  aliases : Table Text
  scripts : Registry

/-- A result with what happened on the way to it: the turns it left, the
names of the scripts called and the events logged, both in order. -/
structure Effect (α : Type) where
  result : α
  turns : Turns
  calls : List Text
  log : List Event

/-- Follows a path; this calls no script. -/
def Context.follow (ctx : Context) (turns : Turns) (path : Path) :
    Effect (Except Reason Json) :=
  let walk := Path.walk ctx.jsonFields ctx.root path
  { result := walk.outcome
    turns := turns
    calls := []
    log := walk.undecoded.map fun (field, e) => .fieldNotDecoded field e }

/-- Tries one alternative. -/
def Alternative.eval (ctx : Context) (turns : Turns) :
    Alternative → Effect (Except Reason Json)
  | .path p => ctx.follow turns p
  | .aliasRef name =>
    match ctx.aliases.find? name with
    | none => ⟨.error (.unknownAlias name), turns, [], []⟩
    | some target =>
      let expanding := .expandingAlias name target
      match Path.parse target with
      | .error e =>
        ⟨.error (.invalidTarget name target e), turns, [], [expanding]⟩
      | .ok p =>
        let walk := ctx.follow turns p
        { walk with log := expanding :: walk.log }
  | .scriptRef name =>
    match ctx.scripts.find? name with
    | none => ⟨.error (.unknownScript name), turns, [], []⟩
    | some s =>
      let (value, turns) := s.call turns
      { result := if value.isNull then .error .nullValue else .ok value
        turns := turns
        calls := [name]
        log := [.invokingScript name] }
  | .invalid text why =>
    ⟨.error (.invalidExpression text why), turns, [], []⟩

/-- Tries the alternatives of an expression; if none gives a value, the
result is why each has failed. -/
def Expression.eval (ctx : Context) (turns : Turns) :
    Expression → Effect (Except (List Reason) Json)
  | [] => ⟨.error [], turns, [], []⟩
  | alternative :: rest =>
    let first := alternative.eval ctx turns
    match first.result with
    | .ok value => { first with result := .ok value }
    | .error reason =>
      let others := eval ctx first.turns rest
      { result := others.result.mapError (reason :: ·)
        turns := others.turns
        calls := first.calls ++ others.calls
        log :=
          first.log ++ .alternativeFailed alternative reason :: others.log }

theorem Alternative.eval_scriptRef_of_none {ctx : Context} {name : Text}
    (turns : Turns) (h : ctx.scripts.find? name = none) :
    (scriptRef name).eval ctx turns
      = ⟨.error (.unknownScript name), turns, [], []⟩ := by
  rw [eval, h]

theorem Alternative.eval_scriptRef_of_some {ctx : Context} {name : Text}
    {script : Script} (turns : Turns)
    (h : ctx.scripts.find? name = some script) :
    (scriptRef name).eval ctx turns
      = { result :=
            if (script.call turns).1.isNull then .error .nullValue
            else .ok (script.call turns).1
          turns := (script.call turns).2
          calls := [name]
          log := [.invokingScript name] } := by
  rw [eval, h]

/-- An alternative that is no reference to a script looks at no turns and
calls nothing. -/
theorem Alternative.eval_of_not_script {a : Alternative} (ctx : Context)
    (turns : Turns) (h : ∀ name, a ≠ .scriptRef name) :
    a.eval ctx turns
      = ⟨(a.eval ctx []).result, turns, [], (a.eval ctx []).log⟩ := by
  cases a with
  | path p => rfl
  | scriptRef name => exact absurd rfl (h name)
  | invalid text why => rfl
  | aliasRef name =>
    simp only [eval]
    cases ctx.aliases.find? name with
    | none => rfl
    | some target =>
      cases hparse : Path.parse target with
      | error why => simp only [hparse]
      | ok p =>
        simp only [hparse]
        rfl

-- ====================================================== the first of a chain

@[simp] theorem mapError_ok {α ε ε' : Type} (x : α) (f : ε → ε') :
    (Except.ok x : Except ε α).mapError f = .ok x := rfl

@[simp] theorem mapError_error {α ε ε' : Type} (e : ε) (f : ε → ε') :
    (Except.error e : Except ε α).mapError f = .error (f e) := rfl

namespace Expression

variable {ctx : Context} {turns : Turns} {first : Alternative}

/-- A first alternative with a value ends the chain. -/
theorem eval_cons_of_ok {value : Json} (rest : Expression)
    (h : (first.eval ctx turns).result = .ok value) :
    Expression.eval ctx turns (first :: rest)
      = { first.eval ctx turns with result := .ok value } := by
  rw [eval, h]

/-- A first alternative without a value leaves it to the others. -/
theorem eval_cons_of_error {reason : Reason} (rest : Expression)
    (h : (first.eval ctx turns).result = .error reason) :
    Expression.eval ctx turns (first :: rest)
      = { result := (Expression.eval ctx (first.eval ctx turns).turns
            rest).result.mapError (reason :: ·)
          turns := (Expression.eval ctx (first.eval ctx turns).turns
            rest).turns
          calls := (first.eval ctx turns).calls
            ++ (Expression.eval ctx (first.eval ctx turns).turns rest).calls
          log := (first.eval ctx turns).log
            ++ .alternativeFailed first reason
              :: (Expression.eval ctx (first.eval ctx turns).turns
                rest).log } := by
  rw [eval, h]

/-- A chain fails for one reason an alternative. -/
theorem length_of_eval_error {expression : Expression}
    {reasons : List Reason}
    (h : (Expression.eval ctx turns expression).result = .error reasons) :
    reasons.length = expression.length := by
  induction expression generalizing turns reasons with
  | nil =>
    cases h
    rfl
  | cons alternative rest ih =>
    cases hfirst : (alternative.eval ctx turns).result with
    | ok value =>
      rw [eval_cons_of_ok rest hfirst] at h
      cases h
    | error reason =>
      rw [eval_cons_of_error rest hfirst] at h
      cases hrest : (Expression.eval ctx (alternative.eval ctx turns).turns
          rest).result with
      | ok value =>
        simp only [hrest] at h
        cases h
      | error others =>
        simp only [hrest] at h
        cases h
        exact congrArg (· + 1) (ih hrest)

end Expression

end Stencil
