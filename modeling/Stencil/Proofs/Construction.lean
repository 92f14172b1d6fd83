/-
Making an engine by a configuration, and making it step by step.

A configuration lists fields that hold JSON, aliases and a flag. An engine
made by it is the one that a caller gets who makes an engine with these
fields, in whatever order they are listed, sets the flag and registers
the aliases one by one, also in whatever order: nothing that is done
afterwards tells the two apart (`Session.Same`). Names of aliases that
are no identifiers are refused in both ways; of several in a
configuration the least is told of, in the order of the characters' code
points.

# The argument

Steps that set the flag and register the aliases leave an engine with the
flag and a table with these aliases, which is that of the configuration
since a table does not know the order in which it was filled
(`after_settings`). The two engines then differ in nothing but the list of
fields. A walk only asks whether a name is among the fields, so a
rendering is the same with any list of the same names, and an action
leaves two sessions that differ in the list of fields as they were
(`act_withFields`); by induction so does every sequence of actions.

Main statement: `withConfig_stepwise`.
-/
import Stencil.Proofs.History

namespace Stencil

open Text

-- ================================================ statement vocabulary

/-- What a caller can ask of an engine at any time. -/
@[ext]
structure View where
  source : Text
  placeholders : List Text
  blankFailures : Bool
  /-- The failures of the last rendering. -/
  failures : List Failure

/-- The steps that are left, for an engine that has a template and fields,
to have what a configuration says. -/
def Config.settings (config : Config) : List Action :=
  .setBlank config.blankFailures
    :: config.aliases.entries.map fun (name, path) =>
      .registerAlias name path

/-- An alias has a name that no template can refer to. -/
def Config.Unfit (config : Config) (name : Text) : Prop :=
  (config.aliases.find? name).isSome = true ∧ isIdentifier name = false

/-- The path that a step lets a name stand for. -/
def Action.alias? : Action → Option (Text × Text)
  | registerAlias name path => some (name, path)
  | _ => none

namespace Session

def view (s : Session) : View :=
  { source := s.engine.source
    placeholders := s.engine.placeholders
    blankFailures := s.engine.blankFailures
    failures := s.engine.failures }

/-- Whatever is done with them, the sessions respond in the same way and
look the same. -/
def Same (s f : Session) : Prop :=
  ∀ actions : List Action,
    s.responses actions = f.responses actions
      ∧ (s.after actions).view = (f.after actions).view

-- =============================================================== fields

/-- The session with other fields that hold JSON. -/
def withFields (s : Session) (jsonFields : List Text) : Session :=
  { s with engine.jsonFields := jsonFields }

@[simp] theorem scripts_withFields (s : Session) (fields : List Text) :
    (s.withFields fields).engine.scripts = s.engine.scripts := rfl

@[simp] theorem turns_withFields (s : Session) (fields : List Text) :
    (s.withFields fields).turns = s.turns := rfl

section Fields

variable {s : Session} {fields : List Text}
  (h : ∀ name, name ∈ fields ↔ name ∈ s.engine.jsonFields)
include h

/-- A rendering is the same with any list of the same fields. -/
theorem pass_withFields (data : Json) :
    (s.withFields fields).engine.pass s.turns data
      = s.engine.pass s.turns data := by
  have hsource : (s.withFields fields).engine.source = s.engine.source := rfl
  have hblank : (s.withFields fields).engine.blankFailures
      = s.engine.blankFailures := rfl
  refine Engine.pass_congr hsource hblank (fun a _ turns => ?_) s.turns
  refine Alternative.eval_congr (fun _ _ => rfl) (fun _ _ => rfl)
    fun p _ => ?_
  exact Path.walkFrom_congr (fun name _ => h name) none data

/-- An action is answered the same, and changes the same. -/
theorem act_withFields (action : Action) :
    (s.withFields fields).act action
      = ((s.act action).1, (s.act action).2.withFields fields) := by
  cases hrendering : action.rendering? with
  | none =>
    cases action with
    | registerAlias name path =>
      simp only [act, Engine.registerAlias]
      by_cases hname : isIdentifier name = true
      · simp only [if_pos hname]
        rfl
      · simp only [if_neg hname]
    | registerScript name values =>
      simp only [act, Engine.registerScript, scripts_withFields,
        turns_withFields]
      by_cases hname : isIdentifier name = true
      · obtain ⟨r, hregister, -⟩ :=
          s.engine.scripts.exists_register s.turns hname values
        simp only [hregister]
        rfl
      · simp only [s.engine.scripts.register_refused s.turns hname values]
    | setRegistry | setBlank => rfl
    | render | renderLossy => cases hrendering
  | some what =>
    obtain ⟨data, validate⟩ := what
    rw [act_of_rendering _ hrendering, act_of_rendering _ hrendering]
    have hpass := pass_withFields h data
    simp only [turns_withFields, hpass]
    rfl

end Fields

/-- Sessions that differ in how the fields are listed cannot be told
apart. -/
theorem same_withFields {s : Session} {fields : List Text}
    (h : ∀ name, name ∈ fields ↔ name ∈ s.engine.jsonFields) :
    s.Same (s.withFields fields) := by
  intro actions
  induction actions generalizing s with
  | nil => exact ⟨rfl, rfl⟩
  | cons action more ih =>
    have hact := act_withFields h action
    have hfields := (s.acts_act action).fixed.2
    obtain ⟨hresponses, hview⟩ := ih (s := (s.act action).2) (by rwa [hfields])
    constructor
    · show (s.act action).1 :: (s.act action).2.responses more
        = ((s.withFields fields).act action).1
          :: ((s.withFields fields).act action).2.responses more
      rw [hact, hresponses]
    · show ((s.act action).2.after more).view
        = (((s.withFields fields).act action).2.after more).view
      rw [hact, hview]

-- ============================================================== settings

/-- Steps that only register aliases and set the flag are all done, and
leave an engine with these aliases and the flag. -/
theorem after_settings {b : Bool} {steps : List Action} {s : Session}
    (hsteps : ∀ step ∈ steps, step = .setBlank b
      ∨ ∃ name path, isIdentifier name = true
        ∧ step = .registerAlias name path)
    (hflag : s.engine.blankFailures = b ∨ .setBlank b ∈ steps) :
    s.responses steps = steps.map (fun _ => quiet .done)
      ∧ s.after steps
        = { s with
            engine.aliases :=
              s.engine.aliases.insertAll (steps.filterMap Action.alias?)
            engine.blankFailures := b } := by
  induction steps generalizing s with
  | nil =>
    refine ⟨rfl, ?_⟩
    rcases hflag with rfl | hflag
    · rfl
    · cases hflag
  | cons step more ih =>
    obtain ⟨hfirst, hmore⟩ := List.forall_mem_cons.1 hsteps
    rcases hfirst with rfl | ⟨name, path, hname, rfl⟩
    · obtain ⟨hresponses, hafter⟩ :=
        ih (s := (s.act (.setBlank b)).2) hmore (.inl rfl)
      exact ⟨congrArg (quiet .done :: ·) hresponses, hafter⟩
    · have hact : s.act (.registerAlias name path)
          = (quiet .done,
            { s with engine.aliases := s.engine.aliases.insert name path }) := by
        simp only [act, Engine.registerAlias, if_pos hname]
      have hflag' : s.engine.blankFailures = b ∨ .setBlank b ∈ more := by
        refine hflag.imp_right fun hmem => ?_
        rcases List.mem_cons.1 hmem with heq | hmem
        · cases heq
        · exact hmem
      obtain ⟨hresponses, hafter⟩ :=
        ih (s := (s.act (.registerAlias name path)).2) hmore
          (by rwa [hact])
      constructor
      · show (s.act (.registerAlias name path)).1
          :: (s.act (.registerAlias name path)).2.responses more = _
        rw [hresponses, hact]
        rfl
      · show (s.act (.registerAlias name path)).2.after more = _
        rw [hafter, hact]
        rfl

end Session

namespace Config

variable {config : Config} {steps : List Action}

theorem mem_settings (hfit : ∀ name, ¬ config.Unfit name) :
    ∀ step ∈ config.settings, step = .setBlank config.blankFailures
      ∨ ∃ name path, isIdentifier name = true
        ∧ step = .registerAlias name path := by
  intro step hstep
  rcases List.mem_cons.1 hstep with rfl | hstep
  · exact .inl rfl
  · obtain ⟨⟨name, path⟩, hentry, rfl⟩ := List.mem_map.1 hstep
    have hsome : (config.aliases.find? name).isSome = true :=
      (config.aliases.isSome_find?_iff name).2
        (List.mem_map_of_mem (f := Prod.fst) hentry)
    have hname : isIdentifier name = true :=
      Bool.of_not_eq_false fun hnot => hfit name ⟨hsome, hnot⟩
    exact .inr ⟨name, path, hname, rfl⟩

theorem filterMap_settings (config : Config) :
    config.settings.filterMap Action.alias? = config.aliases.entries := by
  rw [settings, List.filterMap_cons_none rfl, List.filterMap_map]
  exact List.filterMap_some

/-- The steps, in whatever order, fill the table of the configuration. -/
theorem insertAll_settings (h : steps.Perm config.settings) :
    Table.insertAll ∅ (steps.filterMap Action.alias?) = config.aliases := by
  have hperm : (steps.filterMap Action.alias?).Perm config.aliases.entries := by
    rw [← config.filterMap_settings]
    exact h.filterMap Action.alias?
  refine Table.ext_find? fun name => ?_
  rw [Table.find?_insertAll_of_perm ∅ hperm, Table.find?_empty, Option.or_none]

/-- The steps, in whatever order, are all done and leave what the
configuration says. -/
theorem after_perm (hfit : ∀ name, ¬ config.Unfit name)
    (hsteps : steps.Perm config.settings) {s : Session}
    (hs : s.engine.aliases = ∅) :
    s.responses steps = steps.map (fun _ => Session.quiet .done)
      ∧ s.after steps
        = { s with
            engine.aliases := config.aliases
            engine.blankFailures := config.blankFailures } := by
  have hmem : ∀ step ∈ steps, step = .setBlank config.blankFailures
      ∨ ∃ name path, isIdentifier name = true
        ∧ step = .registerAlias name path :=
    fun step hstep => mem_settings hfit step (hsteps.mem_iff.1 hstep)
  have hflag : .setBlank config.blankFailures ∈ steps :=
    hsteps.mem_iff.2 (List.mem_cons_self ..)
  obtain ⟨hresponses, hafter⟩ := Session.after_settings hmem (.inr hflag)
  rw [hs, insertAll_settings hsteps] at hafter
  exact ⟨hresponses, hafter⟩

end Config

-- =================================================== configured and made

namespace Engine

/-- An engine made by a configuration cannot be told from one that was made
with its fields, listed in any order, and then had the flag set and each
alias registered, in any order. If names of aliases are no identifiers, the
least of them is refused. -/
theorem withConfig_stepwise (template : Text) (config : Config) :
    ((∀ name, ¬ config.Unfit name) →
      ∃ e, withConfig template config = .ok e
        ∧ ∀ (fields : List Text) (steps : List Action),
          (∀ name, name ∈ fields ↔ name ∈ config.jsonFields) →
          steps.Perm config.settings →
            let made := Session.start (withJsonFields template fields)
            made.responses steps = steps.map (fun _ => Session.quiet .done)
              ∧ (Session.start e).Same (made.after steps))
    ∧ ((∃ name, config.Unfit name) →
      ∃ name, config.Unfit name
        ∧ (∀ other, config.Unfit other → ¬ other < name)
        ∧ withConfig template config = .error (.invalidAlias name)) := by
  constructor
  · intro hfit
    rcases withConfig_cases template config with
      ⟨-, hmade⟩ | ⟨name, hsome, hnot, -⟩
    · refine ⟨_, hmade, fun fields steps hfields hsteps => ?_⟩
      intro made
      obtain ⟨hresponses, hafter⟩ :=
        Config.after_perm hfit hsteps (show made.engine.aliases = ∅ from rfl)
      refine ⟨hresponses, ?_⟩
      rw [hafter]
      exact Session.same_withFields hfields
    · exact absurd ⟨hsome, hnot⟩ (hfit name)
  · rintro ⟨unfit, hsome, hnot⟩
    rcases withConfig_cases template config with
      ⟨hnames, -⟩ | ⟨name, hname, hrefused, hleast, herror⟩
    · rw [hnames unfit hsome] at hnot
      cases hnot
    · exact ⟨name, ⟨hname, hrefused⟩,
        fun other h => hleast other h.1 h.2, herror⟩

/-- The flag may be set between the registrations; and of two names that
have to be refused, the one that was written last may be the least. -/
theorem withConfig_stepwise_reordered :
    let template : Text := "$\x7balias:b\x7d"
    let config : Config :=
      { jsonFields := [['f'], ['g']]
        aliases := ((∅ : Table Text).insert ['a'] "f.x").insert ['b'] "f.a"
        blankFailures := false }
    let steps : List Action :=
      [.registerAlias ['b'] "f.a", .setBlank false,
        .registerAlias ['a'] "f.x"]
    let unfit : Config :=
      { config with
        aliases := (config.aliases.insert "z w" "p").insert "a.b" "q" }
    (∃ e, withConfig template config = .ok e
        ∧ (Session.start e).Same
            ((Session.start
              (withJsonFields template [['g'], ['f'], ['g']])).after steps))
      ∧ unfit.Unfit "z w"
      ∧ (∀ other, unfit.Unfit other → ¬ other < "a.b")
      ∧ withConfig template unfit = .error (.invalidAlias "a.b") := by
  intro template config steps unfit
  have hfit : ∀ name, ¬ config.Unfit name := by
    rintro name ⟨hsome, hnot⟩
    have hentry := (config.aliases.isSome_find?_iff name).1 hsome
    have hnames : ∀ name ∈ config.aliases.entries.map Prod.fst,
        isIdentifier name = true := by decide +kernel
    rw [hnames name hentry] at hnot
    cases hnot
  have hunfit : unfit.Unfit "z w" := ⟨rfl, by decide +kernel⟩
  have hrefused : withConfig template unfit
      = .error (.invalidAlias "a.b") := rfl
  obtain ⟨e, hmade, hsame⟩ := (withConfig_stepwise template config).1 hfit
  obtain ⟨name, -, hleast, herror⟩ :=
    (withConfig_stepwise template unfit).2 ⟨_, hunfit⟩
  have hname : name = "a.b" := by
    cases hrefused.symm.trans herror
    rfl
  subst hname
  refine ⟨⟨e, hmade, (hsame _ steps ?_ ?_).2⟩, hunfit, hleast, herror⟩
  · intro name
    simp [config, or_comm, or_left_comm]
  · exact .trans (.swap _ _ _) (.cons _ (.swap _ _ _))

end Engine

end Stencil
