/-
What is left of an engine's history.

Whatever has been done in a session, only its tables are left of it: the
template and the fields that hold JSON, which never change, the flag, what
each alias stands for, and for each script what it returns and how often
it has been called (`Session.tables`). Sessions with the same tables
respond to everything in the same way, however they got there: whether
rendering went before or not, and whatever order names were registered in.
The failures recorded are no part of the tables. They are those of the
last rendering, and nothing looks at them.

# The argument

An action that renders nothing changes the tables in a way that can be
said of the tables alone (`Tables.enter`), and is answered the same in all
sessions. For a rendering, sessions whose tables agree on what the
template refers to are enough (`Akin`): they give contexts that agree on
every such alternative, so `Context.Agree.pass` applies. Both together
make one step of two sessions side by side (`Matches.act`), and so does a
run. As entering different names can be exchanged (`Tables.enter_comm`),
the order of registrations is not left either.

Main statement: `history_after`.
-/
import Mathlib.Logic.Function.Basic
import Stencil.Engine.Session
import Stencil.Proofs.Agreement

namespace Stencil

open Text

-- ================================================ statement vocabulary

/-- What there is of a session when its history is forgotten. -/
@[ext]
structure Tables where
  source : Text
  jsonFields : List Text
  blankFailures : Bool
  /-- The path that an alias stands for. -/
  alias? : Text → Option Text
  /-- What a script returns in turn, and how often it has been called. -/
  script? : Text → Option (List Json × Nat)

/-- The tables agree on what these alternatives refer to. -/
structure Tables.AgreeOn (refs : Alternative → Prop) (t t' : Tables) :
    Prop where
  source_eq : t.source = t'.source
  jsonFields_iff : ∀ name, name ∈ t.jsonFields ↔ name ∈ t'.jsonFields
  blankFailures_eq : t.blankFailures = t'.blankFailures
  alias_eq : ∀ name, refs (.aliasRef name) → t.alias? name = t'.alias? name
  script_eq : ∀ name, refs (.scriptRef name) →
    t.script? name = t'.script? name

/-- What a registration gives a meaning to: the name of an alias, or that
of a script. -/
def Action.key? : Action → Option (Text ⊕ Text)
  | registerAlias name _ => some (.inl name)
  | registerScript name _ => some (.inr name)
  | _ => none

/-- The path that is given to a name, if it is by an action that is
answered so. -/
def Action.given? (name : Text) : Action × Response → Option Text
  | (registerAlias other path, ⟨.done, _, _⟩) =>
    if name = other then some path else none
  | _ => none

/-- An engine made anew out of what another one shows; `aliases` are
registered in their order. -/
def Engine.renewed (e : Engine) (aliases : List (Text × Text)) :
    Except TemplateError Engine :=
  let fresh := withJsonFields e.source e.jsonFields
  { fresh with
    blankFailures := e.blankFailures
    scripts := e.scripts }.registerAliases aliases

namespace Session

def tables (s : Session) : Tables :=
  { source := s.engine.source
    jsonFields := s.engine.jsonFields
    blankFailures := s.engine.blankFailures
    alias? := s.engine.aliases.find?
    script? := s.engine.scripts.due? s.turns }

/-- The session after actions. -/
def after (s : Session) (actions : List Action) : Session :=
  actions.foldl (fun s action => (s.act action).2) s

/-- How a session responds to actions. -/
def responses (s : Session) (actions : List Action) : List Response :=
  (s.run actions).map Prod.fst

/-- Nothing that can be done tells the sessions apart: all responses are
the same, and so are the failures recorded, once there was a rendering. -/
def Indistinct (s f : Session) : Prop :=
  ∀ actions : List Action,
    s.responses actions = f.responses actions
      ∧ ((∃ action ∈ actions, action.rendering? ≠ none) →
          (s.after actions).engine.failures
            = (f.after actions).engine.failures)

/-- What can be said of a session that has started with an engine, which
was made by a configuration, and has come to `s` by actions. -/
structure History (config : Config) (e : Engine) (actions : List Action)
    (s : Session) : Prop where
  source_eq : s.engine.source = e.source
  placeholders_eq : s.engine.placeholders = e.placeholders
  jsonFields_eq : s.engine.jsonFields = e.jsonFields
  /-- A name stands for the path last given to it, or else for that of
  the configuration. -/
  aliases_eq : ∀ name,
    s.engine.aliases.find? name
      = ((actions.zip ((start e).responses actions)).reverse.findSome?
          (Action.given? name)).or (config.aliases.find? name)
  identifiers : ∀ name path, s.engine.aliases.find? name = some path →
    isIdentifier name = true
  /-- A registration that is refused leaves all as it is. -/
  refused : ∀ action error, action.rendering? = none →
    (s.act action).1.answer = .refused error → (s.act action).2 = s
  /-- Without a rendering no failures are recorded. -/
  unrendered : (∀ action ∈ actions, action.rendering? = none) →
    s.engine.failures = []
  /-- The failures recorded are those of the last rendering. -/
  recorded : ∀ before action later data validate,
    actions = before ++ action :: later →
    action.rendering? = some (data, validate) →
    (∀ action ∈ later, action.rendering? = none) →
    s.engine.failures
      = (((start e).after before).engine.pass ((start e).after before).turns
          data).failures
  /-- Actions without a rendering leave them. -/
  kept : ∀ action, action.rendering? = none →
    (s.act action).2.engine.failures = s.engine.failures
  /-- Only the tables show. -/
  shown : ∀ f : Session, f.tables = s.tables →
    f.engine.scripts.Counted f.turns → s.Indistinct f
  /-- In particular an engine that is made anew does as well. -/
  renewed : ∀ aliases, aliases.Perm s.engine.aliases.entries →
    ∃ f, s.engine.renewed aliases = .ok f ∧ s.Indistinct ⟨f, s.turns⟩
  /-- The order of registrations does not show, if each is of something
  else. -/
  unordered : ∀ registrations registrations' : List Action,
    registrations.Perm registrations' →
    (∀ action ∈ registrations, action.key? ≠ none) →
    (registrations.map Action.key?).Nodup →
    (s.after registrations).Indistinct (s.after registrations')
      ∧ (s.after registrations).engine.failures
          = (s.after registrations').engine.failures

end Session

-- ================================================== entering into tables

namespace Tables

theorem AgreeOn.refl (refs : Alternative → Prop) (t : Tables) :
    t.AgreeOn refs t :=
  ⟨rfl, fun _ => Iff.rfl, rfl, fun _ _ => rfl, fun _ _ => rfl⟩

theorem AgreeOn.symm {refs : Alternative → Prop} {t t' : Tables}
    (h : t.AgreeOn refs t') : t'.AgreeOn refs t where
  source_eq := h.source_eq.symm
  jsonFields_iff name := (h.jsonFields_iff name).symm
  blankFailures_eq := h.blankFailures_eq.symm
  alias_eq name hname := (h.alias_eq name hname).symm
  script_eq name hname := (h.script_eq name hname).symm

theorem AgreeOn.trans {refs : Alternative → Prop} {t t' t'' : Tables}
    (h : t.AgreeOn refs t') (h' : t'.AgreeOn refs t'') :
    t.AgreeOn refs t'' where
  source_eq := h.source_eq.trans h'.source_eq
  jsonFields_iff name := (h.jsonFields_iff name).trans (h'.jsonFields_iff name)
  blankFailures_eq := h.blankFailures_eq.trans h'.blankFailures_eq
  alias_eq name hname := (h.alias_eq name hname).trans (h'.alias_eq name hname)
  script_eq name hname :=
    (h.script_eq name hname).trans (h'.script_eq name hname)

def bindAlias (t : Tables) (name path : Text) : Tables :=
  if isIdentifier name then
    { t with alias? := Function.update t.alias? name (some path) }
  else t

def bindScript (t : Tables) (script : Prepared) : Tables :=
  if isIdentifier script.name then
    { t with
      script? := Function.update t.script? script.name
        (some (script.values.map Returned.toJson, script.called)) }
  else t

/-- The tables after an action, unless it renders. -/
def enter (t : Tables) : Action → Tables
  | .registerAlias name path => t.bindAlias name path
  | .registerScript name values => t.bindScript ⟨name, values, 0⟩
  | .setRegistry scripts =>
    scripts.foldl bindScript { t with script? := fun _ => none }
  | .setBlank blank => { t with blankFailures := blank }
  | .render .. | .renderLossy _ => t

theorem bindAlias_comm (t : Tables) {name other : Text}
    (h : name ≠ other) (path path' : Text) :
    (t.bindAlias name path).bindAlias other path'
      = (t.bindAlias other path').bindAlias name path := by
  unfold bindAlias
  by_cases hname : isIdentifier name = true <;>
    by_cases hother : isIdentifier other = true <;>
    simp only [hname, hother, if_true, Bool.false_eq_true, if_false]
  rw [Function.update_comm h]

theorem bindScript_comm (t : Tables) (script other : Prepared)
    (h : script.name ≠ other.name) :
    (t.bindScript script).bindScript other
      = (t.bindScript other).bindScript script := by
  unfold bindScript
  by_cases hname : isIdentifier script.name = true <;>
    by_cases hother : isIdentifier other.name = true <;>
    simp only [hname, hother, if_true, Bool.false_eq_true, if_false]
  rw [Function.update_comm h]

theorem bindAlias_bindScript (t : Tables) (name path : Text)
    (script : Prepared) :
    (t.bindAlias name path).bindScript script
      = (t.bindScript script).bindAlias name path := by
  unfold bindAlias bindScript
  by_cases hname : isIdentifier name = true <;>
    by_cases hother : isIdentifier script.name = true <;>
    simp only [hname, hother, if_true, Bool.false_eq_true, if_false]

/-- Registrations of different things can be exchanged. -/
theorem enter_comm {a b : Action} (ha : a.key? ≠ none)
    (hb : b.key? ≠ none) (h : a.key? ≠ b.key?) (t : Tables) :
    (t.enter a).enter b = (t.enter b).enter a := by
  cases a with
  | setRegistry | setBlank | render | renderLossy => exact absurd rfl ha
  | registerAlias name path =>
    cases b with
    | setRegistry | setBlank | render | renderLossy => exact absurd rfl hb
    | registerAlias other path' =>
      have hne : name ≠ other := fun heq => h (by rw [heq]; rfl)
      exact t.bindAlias_comm hne path path'
    | registerScript other values =>
      exact t.bindAlias_bindScript name path ⟨other, values, 0⟩
  | registerScript name values =>
    cases b with
    | setRegistry | setBlank | render | renderLossy => exact absurd rfl hb
    | registerAlias other path =>
      exact (t.bindAlias_bindScript other path ⟨name, values, 0⟩).symm
    | registerScript other values' =>
      have hne : name ≠ other := fun heq => h (by rw [heq]; rfl)
      exact t.bindScript_comm ⟨name, values, 0⟩ ⟨other, values', 0⟩ hne

/-- So registrations of different things can be entered in any order. -/
theorem foldl_enter_of_perm {registrations registrations' : List Action}
    (h : registrations.Perm registrations')
    (hkeys : ∀ action ∈ registrations, action.key? ≠ none)
    (hnodup : (registrations.map Action.key?).Nodup) (t : Tables) :
    registrations.foldl enter t = registrations'.foldl enter t := by
  refine h.foldl_eq' (fun a ha b hb t => ?_) t
  by_cases hsame : a.key? = b.key?
  · rw [List.inj_on_of_nodup_map hnodup ha hb hsame]
  · exact enter_comm (hkeys a ha) (hkeys b hb) hsame t

end Tables

-- ==================================================== scripts one by one

namespace Registry

/-- What is entered for scripts is what taking them over leaves due; each
of them is counted on its own. -/
theorem Counted.foldl_bindScript {r : Registry} {turns : Turns}
    (hr : r.Counted turns) {t : Tables} (h : t.script? = r.due? turns)
    (scripts : List Prepared) :
    scripts.foldl Tables.bindScript t
        = { t with
            script? := (r.adoptAll turns scripts).2.1.due?
              (r.adoptAll turns scripts).2.2 }
      ∧ (r.adoptAll turns scripts).2.1.Counted
          (r.adoptAll turns scripts).2.2 := by
  induction scripts generalizing r turns t with
  | nil =>
    rw [adoptAll, ← h]
    exact ⟨rfl, hr⟩
  | cons script more ih =>
    rw [List.foldl_cons, adoptAll, Tables.bindScript]
    by_cases hname : isIdentifier script.name = true
    · obtain ⟨r', hadopt, hdue, hr'⟩ := hr.exists_adopt script hname
      rw [if_pos hname, hadopt]
      refine ih hr' ?_
      funext other
      simp only [hdue, h, Function.update_apply]
    · rw [if_neg hname, r.adopt_refused turns script hname]
      exact ih hr h

/-- Whether scripts are taken is a matter of their names. -/
theorem answers_adoptAll (r r' : Registry) (turns turns' : Turns)
    (scripts : List Prepared) :
    (r.adoptAll turns scripts).1 = (r'.adoptAll turns' scripts).1 := by
  induction scripts generalizing r r' turns turns' with
  | nil => rfl
  | cons script more ih =>
    rw [adoptAll, adoptAll]
    by_cases hname : isIdentifier script.name = true
    · obtain ⟨s, hs, -⟩ := r.exists_adopt turns script hname
      obtain ⟨s', hs', -⟩ := r'.exists_adopt turns' script hname
      rw [hs, hs']
      exact congrArg (.ok () :: ·) (ih s s' _ _)
    · rw [r.adopt_refused turns script hname,
        r'.adopt_refused turns' script hname]
      exact congrArg (.error (.invalidScript script.name) :: ·)
        (ih r r' turns turns')

end Registry

-- ============================================================ one session

namespace Session

variable {s f s' : Session} {action : Action} {response : Response}

/-- Sessions whose tables agree on these alternatives, in each of which
scripts are counted on their own. -/
structure Akin (refs : Alternative → Prop) (s f : Session) : Prop where
  tables_agree : s.tables.AgreeOn refs f.tables
  counted : s.engine.scripts.Counted s.turns
  counted' : f.engine.scripts.Counted f.turns

namespace Akin

variable {refs : Alternative → Prop}

/-- The alternatives find the same in both. -/
theorem agree (h : s.Akin refs f) (data : Json) :
    (s.engine.context data).Agree refs (f.engine.context data) s.turns
      f.turns where
  counted := h.counted
  counted' := h.counted'
  eval_eq _ ha hplain :=
    Alternative.eval_congr
      (fun name heq => h.tables_agree.alias_eq name (heq ▸ ha))
      (fun name heq => absurd heq (hplain name))
      (fun _ _ => Path.walkFrom_congr
        (fun name _ => h.tables_agree.jsonFields_iff name) none data)
  due_eq := h.tables_agree.script_eq

/-- A rendering that refers to no others comes to the same, and the
sessions are still akin. -/
theorem pass (h : s.Akin refs f) (hrefs : ∀ a, s.engine.Refers a → refs a)
    (data : Json) :
    let r := s.engine.pass s.turns data
    let r' := f.engine.pass f.turns data
    r.Alike r'
      ∧ Akin refs ⟨s.engine.record r.failures, r.turns⟩
          ⟨f.engine.record r'.failures, r'.turns⟩ := by
  intro r r'
  have htables := h.tables_agree
  obtain ⟨halike, hagree⟩ :=
    (h.agree data).pass htables.source_eq htables.blankFailures_eq
      fun piece hpiece a ha =>
        hrefs a (Engine.refers_of_mem_pieces hpiece ha)
  exact ⟨halike, { htables with script_eq := hagree.due_eq },
    hagree.counted, hagree.counted'⟩

end Akin

/-- Sessions with the same tables, in each of which scripts are counted
on their own. -/
structure Matches (s f : Session) : Prop where
  tables_eq : s.tables = f.tables
  counted : s.engine.scripts.Counted s.turns
  counted' : f.engine.scripts.Counted f.turns

namespace Matches

theorem akin (h : s.Matches f) : s.Akin (fun _ => True) f := by
  refine ⟨?_, h.counted, h.counted'⟩
  rw [h.tables_eq]
  exact .refl _ _

/-- A rendering comes to the same, and the sessions still match. -/
theorem pass (h : s.Matches f) (data : Json) :
    let r := s.engine.pass s.turns data
    let r' := f.engine.pass f.turns data
    r.Alike r'
      ∧ Matches ⟨s.engine.record r.failures, r.turns⟩
          ⟨f.engine.record r'.failures, r'.turns⟩ := by
  intro r r'
  obtain ⟨halike, hakin⟩ := h.akin.pass (fun _ _ => trivial) data
  refine ⟨halike, ⟨?_, hakin.counted, hakin.counted'⟩⟩
  -- nothing but the turns has changed
  have hsource := congrArg Tables.source h.tables_eq
  have hfields := congrArg Tables.jsonFields h.tables_eq
  have hblank := congrArg Tables.blankFailures h.tables_eq
  have hfind := congrArg Tables.alias? h.tables_eq
  have hdue : s.engine.scripts.due? r.turns
      = f.engine.scripts.due? r'.turns :=
    funext fun name => hakin.tables_agree.script_eq name trivial
  exact Tables.ext hsource hfields hblank hfind hdue

end Matches

/-- Setting a registry enters its scripts into tables without any; each of
them is counted on its own. -/
theorem tables_setRegistry (s : Session) (scripts : List Prepared) :
    let after := (s.act (.setRegistry scripts)).2
    after.tables = s.tables.enter (.setRegistry scripts)
      ∧ after.engine.scripts.Counted after.turns := by
  obtain ⟨htables, hcounted⟩ :=
    (Registry.counted_empty s.turns).foldl_bindScript
      (t := { s.tables with script? := fun _ => none }) rfl scripts
  exact ⟨htables.symm, hcounted⟩

namespace Acts

theorem fixed (h : s.Acts action response s') :
    s'.engine.source = s.engine.source
      ∧ s'.engine.jsonFields = s.engine.jsonFields := by
  cases h <;> exact ⟨rfl, rfl⟩

/-- A name stands for the path that an action has given to it; otherwise
for what it stood for before. -/
theorem find?_eq (h : s.Acts action response s') (name : Text) :
    s'.engine.aliases.find? name
      = (Action.given? name (action, response)).or
          (s.engine.aliases.find? name) := by
  cases h with
  | @aliased other path hother =>
    show (s.engine.aliases.insert other path).find? name = _
    rw [Table.find?_insert]
    show _ = (if name = other then some path else none).or _
    by_cases heq : name = other
    · rw [if_pos heq, if_pos heq]
      rfl
    · rw [if_neg heq, if_neg heq]
      rfl
  | aliasRefused | scripted | scriptRefused | replaced | blanked => rfl
  | rendered hrendering =>
    cases action with
    | registerAlias | registerScript | setRegistry | setBlank =>
      cases hrendering
    | render | renderLossy => rfl

/-- Only names that a template can refer to become aliases. -/
theorem identifiers (h : s.Acts action response s')
    (hs : ∀ name path, s.engine.aliases.find? name = some path →
      isIdentifier name = true) (name path : Text)
    (hfind : s'.engine.aliases.find? name = some path) :
    isIdentifier name = true := by
  cases h with
  | @aliased other path' hother =>
    have hinsert : (s.engine.aliases.insert other path').find? name
        = some path := hfind
    rw [Table.find?_insert] at hinsert
    by_cases heq : name = other
    · rw [heq]
      exact hother
    · rw [if_neg heq] at hinsert
      exact hs name path hinsert
  | aliasRefused | scripted | scriptRefused | replaced | blanked
  | rendered => exact hs name path hfind

/-- What is refused has not been done, unless it is a rendering. -/
theorem eq_of_refused (h : s.Acts action response s')
    (hquiet : action.rendering? = none) {error : TemplateError}
    (hrefused : response.answer = .refused error) : s' = s := by
  cases h with
  | aliasRefused | scriptRefused => rfl
  | aliased | scripted | replaced | blanked => cases hrefused
  | rendered hrendering =>
    rw [hquiet] at hrendering
    cases hrendering

theorem failures_eq (h : s.Acts action response s')
    (hquiet : action.rendering? = none) :
    s'.engine.failures = s.engine.failures := by
  cases h with
  | aliased | aliasRefused | scripted | scriptRefused | replaced
  | blanked => rfl
  | rendered hrendering =>
    rw [hquiet] at hrendering
    cases hrendering

theorem counted (h : s.Acts action response s')
    (hs : s.engine.scripts.Counted s.turns) :
    s'.engine.scripts.Counted s'.turns := by
  cases h with
  | aliased | aliasRefused | scriptRefused | blanked => exact hs
  | @scripted name values r turns hname hregister =>
    obtain ⟨r', hregister', -, hcounted⟩ := hs.exists_register hname values
    rw [hregister'] at hregister
    cases hregister
    exact hcounted
  | replaced scripts =>
    exact (s.tables_setRegistry scripts).2
  | rendered =>
    have hsame : s.Matches s := ⟨rfl, hs, hs⟩
    exact (hsame.pass _).2.counted

/-- What an action that renders nothing does to the tables. -/
theorem tables_eq (h : s.Acts action response s')
    (hs : s.engine.scripts.Counted s.turns)
    (hquiet : action.rendering? = none) :
    s'.tables = s.tables.enter action := by
  cases h with
  | @aliased name path hname =>
    rw [Tables.enter, Tables.bindAlias, if_pos hname]
    refine Tables.ext rfl rfl rfl ?_ rfl
    funext other
    show (s.engine.aliases.insert name path).find? other
      = Function.update s.engine.aliases.find? name (some path) other
    rw [Table.find?_insert, Function.update_apply]
  | @aliasRefused name path hname => exact (if_neg hname).symm
  | @scripted name values r turns hname hregister =>
    obtain ⟨r', hregister', hdue, -⟩ := hs.exists_register hname values
    rw [hregister'] at hregister
    cases hregister
    rw [Tables.enter, Tables.bindScript, if_pos hname]
    refine Tables.ext rfl rfl rfl rfl ?_
    funext other
    show r.due? s.turns.extend other
      = Function.update (s.engine.scripts.due? s.turns) name _ other
    rw [hdue, Function.update_apply]
  | @scriptRefused name values hname => exact (if_neg hname).symm
  | replaced scripts =>
    exact (s.tables_setRegistry scripts).1
  | blanked => rfl
  | rendered hrendering =>
    rw [hquiet] at hrendering
    cases hrendering

end Acts

/-- What is not rendered is answered the same in all sessions. -/
theorem response_eq_of_quiet (s f : Session)
    (hquiet : action.rendering? = none) :
    (s.act action).1 = (f.act action).1 := by
  cases action with
  | registerAlias name path =>
    simp only [act, Engine.registerAlias]
    by_cases hname : isIdentifier name = true
    · simp only [if_pos hname]
    · simp only [if_neg hname]
  | registerScript name values =>
    simp only [act, Engine.registerScript]
    by_cases hname : isIdentifier name = true
    · obtain ⟨r, hr, -⟩ :=
        s.engine.scripts.exists_register s.turns hname values
      obtain ⟨r', hr', -⟩ :=
        f.engine.scripts.exists_register f.turns hname values
      simp only [hr, hr']
    · simp only [s.engine.scripts.register_refused s.turns hname values,
        f.engine.scripts.register_refused f.turns hname values]
  | setRegistry scripts =>
    exact congrArg (fun answers => quiet (.registered answers))
      (Registry.answers_adoptAll .empty .empty s.turns f.turns scripts)
  | setBlank blank => rfl
  | render | renderLossy => cases hquiet

-- =================================================== two sessions abreast

namespace Matches

/-- An action is answered the same in both, and they still match; a
rendering leaves the same failures. -/
theorem act (h : s.Matches f) (action : Action) :
    (s.act action).1 = (f.act action).1
      ∧ (s.act action).2.Matches (f.act action).2
      ∧ (action.rendering? ≠ none →
          (s.act action).2.engine.failures
            = (f.act action).2.engine.failures) := by
  cases hrendering : action.rendering? with
  | none =>
    have hs := s.acts_act action
    have hf := f.acts_act action
    refine ⟨s.response_eq_of_quiet f hrendering, ⟨?_, ?_, ?_⟩,
      fun hne => absurd rfl hne⟩
    · rw [hs.tables_eq h.counted hrendering,
        hf.tables_eq h.counted' hrendering, h.tables_eq]
    · exact hs.counted h.counted
    · exact hf.counted h.counted'
  | some what =>
    obtain ⟨data, validate⟩ := what
    obtain ⟨halike, hmatches⟩ := h.pass data
    rw [s.act_of_rendering hrendering, f.act_of_rendering hrendering]
    refine ⟨?_, hmatches, fun _ => halike.failures_eq⟩
    simp only [told, halike.text_eq, halike.failures_eq, halike.calls_eq,
      halike.log_eq]

/-- Sessions that match cannot be told apart, and their failures are the
same after a rendering, or if they were before. -/
theorem run (h : s.Matches f) (actions : List Action) :
    s.responses actions = f.responses actions
      ∧ ((∃ action ∈ actions, action.rendering? ≠ none)
            ∨ s.engine.failures = f.engine.failures →
          (s.after actions).engine.failures
            = (f.after actions).engine.failures) := by
  induction actions generalizing s f with
  | nil =>
    refine ⟨rfl, fun hfailures => ?_⟩
    rcases hfailures with ⟨action, hmem, -⟩ | hsame
    · cases hmem
    · exact hsame
  | cons action more ih =>
    obtain ⟨hresponse, hmatches, hfailures⟩ := h.act action
    obtain ⟨hresponses, hlater⟩ := ih hmatches
    refine ⟨congrArg₂ (· :: ·) hresponse hresponses, fun hbefore => ?_⟩
    refine hlater ?_
    by_cases hrendering : action.rendering? = none
    · rcases hbefore with ⟨action', hmem, hrendering'⟩ | hsame
      · rcases List.mem_cons.1 hmem with rfl | hmore
        · exact absurd hrendering hrendering'
        · exact .inl ⟨action', hmore, hrendering'⟩
      · refine .inr ?_
        rw [(s.acts_act action).failures_eq hrendering,
          (f.acts_act action).failures_eq hrendering, hsame]
    · exact .inr (hfailures hrendering)

theorem indistinct (h : s.Matches f) : s.Indistinct f := fun actions =>
  ⟨(h.run actions).1, fun hrendering => (h.run actions).2 (.inl hrendering)⟩

end Matches

-- ============================================================ whole runs

theorem after_append (s : Session) (before later : List Action) :
    s.after (before ++ later) = (s.after before).after later :=
  List.foldl_append

theorem fixed_after (s : Session) (actions : List Action) :
    (s.after actions).engine.source = s.engine.source
      ∧ (s.after actions).engine.jsonFields = s.engine.jsonFields := by
  induction actions generalizing s with
  | nil => exact ⟨rfl, rfl⟩
  | cons action more ih =>
    obtain ⟨hsource, hfields⟩ := (s.acts_act action).fixed
    obtain ⟨hsource', hfields'⟩ := ih (s.act action).2
    exact ⟨hsource'.trans hsource, hfields'.trans hfields⟩

/-- A name stands for the path last given to it. -/
theorem find?_after (s : Session) (actions : List Action) (name : Text) :
    (s.after actions).engine.aliases.find? name
      = ((actions.zip (s.responses actions)).reverse.findSome?
          (Action.given? name)).or (s.engine.aliases.find? name) := by
  induction actions generalizing s with
  | nil => rfl
  | cons action more ih =>
    show ((s.act action).2.after more).engine.aliases.find? name
      = (((action, (s.act action).1)
          :: more.zip ((s.act action).2.responses more)).reverse.findSome?
            (Action.given? name)).or _
    rw [ih, (s.acts_act action).find?_eq name, List.reverse_cons,
      List.findSome?_append, List.findSome?_singleton, Option.or_assoc]

theorem identifiers_after {s : Session}
    (hs : ∀ name path, s.engine.aliases.find? name = some path →
      isIdentifier name = true) (actions : List Action) :
    ∀ name path, (s.after actions).engine.aliases.find? name = some path →
      isIdentifier name = true := by
  induction actions generalizing s with
  | nil => exact hs
  | cons action more ih => exact ih ((s.acts_act action).identifiers hs)

theorem counted_after {s : Session}
    (hs : s.engine.scripts.Counted s.turns) (actions : List Action) :
    (s.after actions).engine.scripts.Counted (s.after actions).turns := by
  induction actions generalizing s with
  | nil => exact hs
  | cons action more ih => exact ih ((s.acts_act action).counted hs)

theorem failures_after (s : Session) {actions : List Action}
    (hquiet : ∀ action ∈ actions, action.rendering? = none) :
    (s.after actions).engine.failures = s.engine.failures := by
  induction actions generalizing s with
  | nil => rfl
  | cons action more ih =>
    obtain ⟨hfirst, hmore⟩ := List.forall_mem_cons.1 hquiet
    exact (ih (s.act action).2 hmore).trans
      ((s.acts_act action).failures_eq hfirst)

theorem tables_after {s : Session}
    (hs : s.engine.scripts.Counted s.turns) {actions : List Action}
    (hquiet : ∀ action ∈ actions, action.rendering? = none) :
    (s.after actions).tables = actions.foldl Tables.enter s.tables := by
  induction actions generalizing s with
  | nil => rfl
  | cons action more ih =>
    obtain ⟨hfirst, hmore⟩ := List.forall_mem_cons.1 hquiet
    have hacts := s.acts_act action
    rw [List.foldl_cons, ← hacts.tables_eq hs hfirst]
    exact ih (hacts.counted hs) hmore

/-- A registration renders nothing. -/
theorem rendering?_of_key? (h : action.key? ≠ none) :
    action.rendering? = none := by
  cases action with
  | registerAlias | registerScript | setRegistry | setBlank => rfl
  | render | renderLossy => exact absurd rfl h

/-- After registrations of different things in one order or another,
sessions match, with the failures that there were. -/
theorem matches_of_perm (hs : s.engine.scripts.Counted s.turns)
    {registrations registrations' : List Action}
    (h : registrations.Perm registrations')
    (hkeys : ∀ action ∈ registrations, action.key? ≠ none)
    (hnodup : (registrations.map Action.key?).Nodup) :
    (s.after registrations).Matches (s.after registrations')
      ∧ (s.after registrations).engine.failures
          = (s.after registrations').engine.failures := by
  have hquiet : ∀ action ∈ registrations, action.rendering? = none :=
    fun action hmem => rendering?_of_key? (hkeys action hmem)
  have hquiet' : ∀ action ∈ registrations', action.rendering? = none :=
    fun action hmem => hquiet action (h.mem_iff.2 hmem)
  refine ⟨⟨?_, counted_after hs _, counted_after hs _⟩, ?_⟩
  · rw [tables_after hs hquiet, tables_after hs hquiet']
    exact Tables.foldl_enter_of_perm h hkeys hnodup s.tables
  · rw [s.failures_after hquiet, s.failures_after hquiet']

end Session

-- ====================================================== making an engine

namespace Engine

variable {template : Text} {config : Config} {e : Engine}

/-- An engine has what its configuration says, and no scripts and failures
yet. -/
theorem withConfig_ok (h : withConfig template config = .ok e) :
    e.scripts = .empty ∧ e.failures = []
      ∧ (∀ name, e.aliases.find? name = config.aliases.find? name)
      ∧ ∀ name path, e.aliases.find? name = some path →
          isIdentifier name = true := by
  rcases withConfig_cases template config with
    ⟨hfit, hmade⟩ | ⟨name, -, -, -, hrefused⟩
  · rw [hmade] at h
    cases h
    exact ⟨rfl, rfl, fun _ => rfl, fun name path hname =>
      hfit name (Option.isSome_of_eq_some hname)⟩
  · rw [hrefused] at h
    cases h

/-- An engine that is made with fields alone has a configuration, too. -/
example (template : Text) (jsonFields : List Text) :
    withConfig template ⟨jsonFields, ∅, true⟩
      = .ok (withJsonFields template jsonFields) := rfl

/-- An engine made anew shows the same. -/
theorem exists_renewed
    (hnames : ∀ name path, e.aliases.find? name = some path →
      isIdentifier name = true)
    {aliases : List (Text × Text)} (h : aliases.Perm e.aliases.entries)
    (turns : Turns) :
    ∃ f, e.renewed aliases = .ok f ∧ f.scripts = e.scripts
      ∧ Session.tables ⟨e, turns⟩ = Session.tables ⟨f, turns⟩ := by
  refine ⟨_, registerAliases_eq_ok_iff.2 ⟨fun entry hentry => ?_, rfl⟩, rfl,
    ?_⟩
  · have hmem := h.mem_iff.1 hentry
    exact hnames entry.1 entry.2
      ((lookup_eq_some_iff_mem e.aliases.nodup_names).2 hmem)
  · refine Tables.ext rfl rfl rfl ?_ rfl
    funext name
    show e.aliases.find? name = (Table.insertAll ∅ aliases).find? name
    rw [Table.find?_insertAll_of_perm ∅ h, Table.find?_empty,
      Option.or_none]

end Engine

namespace Session

/-- Whatever is done with an engine, only its tables are left of it, and
the failures of the last rendering. -/
theorem history_after {template : Text} {config : Config} {e : Engine}
    (h : Engine.withConfig template config = .ok e)
    (actions : List Action) :
    History config e actions ((start e).after actions) := by
  obtain ⟨hscripts, hfailures, hconfig, hnames⟩ := Engine.withConfig_ok h
  have hidentifiers : ∀ name path,
      ((start e).after actions).engine.aliases.find? name = some path →
        isIdentifier name = true := identifiers_after hnames actions
  have hcounted : ((start e).after actions).engine.scripts.Counted
      ((start e).after actions).turns := by
    refine counted_after ?_ actions
    show e.scripts.Counted []
    rw [hscripts]
    exact Registry.counted_empty []
  obtain ⟨hsource, hfields⟩ := (start e).fixed_after actions
  refine
    { source_eq := hsource
      placeholders_eq := ?_
      jsonFields_eq := hfields
      aliases_eq := fun name => ?_
      identifiers := hidentifiers
      refused := fun action error hquiet hrefused =>
        (acts_act _ action).eq_of_refused hquiet hrefused
      unrendered := fun hquiet => ?_
      recorded := ?_
      kept := fun action hquiet => (acts_act _ action).failures_eq hquiet
      shown := fun f htables hf => ?_
      renewed := fun aliases haliases => ?_
      unordered := fun registrations registrations' hperm hkeys hnodup => ?_ }
  · unfold Engine.placeholders
    rw [Engine.compiled, hsource, e.compiled]
    rfl
  · rw [← hconfig]
    exact (start e).find?_after actions name
  · exact ((start e).failures_after hquiet).trans hfailures
  · intro before action later data validate hactions hrendering hlater
    rw [hactions, after_append]
    refine (failures_after _ hlater).trans ?_
    show (((start e).after before).act action).2.engine.failures = _
    rw [act_of_rendering _ hrendering]
    rfl
  · exact Matches.indistinct ⟨htables.symm, hcounted, hf⟩
  · obtain ⟨f, hf, hscripts', htables⟩ :=
      Engine.exists_renewed hidentifiers haliases
        ((start e).after actions).turns
    refine ⟨f, hf, Matches.indistinct ⟨htables, hcounted, ?_⟩⟩
    rw [hscripts']
    exact hcounted
  · obtain ⟨hmatches, hsame⟩ :=
      matches_of_perm hcounted hperm hkeys hnodup
    exact ⟨hmatches.indistinct, hsame⟩

/-- An alias of the configuration is given another path, another one is
added, and a rendering fails. -/
theorem history_after_renamed :
    let config : Config :=
      { jsonFields := []
        aliases := (∅ : Table Text).insert ['a'] ['x']
        blankFailures := false }
    let actions : List Action :=
      [.registerAlias ['a'] ['y'], .registerAlias ['1'] ['z'],
        .registerScript ['n'] [.json (.int 1), .nan],
        .render (.object []) true]
    ∃ e, Engine.withConfig "$\x7balias:a\x7d $\x7bscript:n\x7d" config
        = .ok e
      ∧ History config e actions ((start e).after actions) := by
  intro config actions
  exact ⟨_, rfl, history_after rfl actions⟩

end Session

end Stencil
