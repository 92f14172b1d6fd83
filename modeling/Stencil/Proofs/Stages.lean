/-
The stages of a run.

With a command line that has been understood, the data are read, the
configuration is read from its file, the aliases are looked at, then the
scripts, and the template is rendered. The first of these stages that
fails decides what the run ends with, and nothing is told of the later
ones (`Ends`). Of several aliases that no template can refer to, the one
with the least name is told of, wherever it comes from; of several such
scripts, the first one given.

If no stage fails, the text is written that a session renders which has
what the options say over the configuration (`Arguments.tables`). It does
not matter how the session was made, nor in which order it lists the
fields that hold JSON.

# The argument

Each stage has one lemma for its success and one for its failure. The
aliases of an engine are made in the order of their names, so the first
that is refused is the least (`Engine.withConfig_cases`); the scripts are
made in their order. When all of them are taken, the session is akin to
every one with the same tables, and both render the same
(`Session.Akin.pass`). By cases on the stages one of the ends is met.

Main statement: `run_eq_iff`.
-/
import Stencil.Command.Run
import Stencil.Proofs.History

namespace Stencil

open Text

-- ================================================ statement vocabulary

/-- An alias has a name that no template can refer to. -/
def Tables.Unfit (t : Tables) (name : Text) : Prop :=
  (t.alias? name).isSome = true ∧ isIdentifier name = false

/-- A session has what the tables say, in whatever order the fields are
listed, and its scripts are counted each on its own. -/
structure Session.Serves (s : Session) (t : Tables) : Prop where
  tables_agree : s.tables.AgreeOn (fun _ => True) t
  counted : s.engine.scripts.Counted s.turns

/-- All sessions with what the tables say render the same. -/
theorem Session.Serves.pass {s s' : Session} {t : Tables} (h : s.Serves t)
    (h' : s'.Serves t) (data : Json) :
    (s.engine.pass s.turns data).Alike (s'.engine.pass s'.turns data) := by
  have hakin : s.Akin (fun _ => True) s' :=
    ⟨h.tables_agree.trans h'.tables_agree.symm, h.counted, h'.counted⟩
  exact (hakin.pass (fun _ _ => trivial) data).1

namespace Command

namespace Outcome

/-- What a run leaves that fails. -/
def failed (message : Text) : Outcome := ⟨1, [], message ++ ['\n']⟩

/-- What a run leaves that writes a text. -/
def wrote (text : Text) : Outcome := ⟨0, text ++ ['\n'], []⟩

end Outcome

namespace Arguments

/-- What the options say over a configuration. Of several paths for a name
the last one counts, and that of the configuration where there is none; of
several scripts for a name the last one counts, and it returns its text
every time. -/
def tables (args : Arguments) (config : Config) : Tables :=
  { source := args.template
    jsonFields := config.jsonFields ++ args.jsonFields
    blankFailures := if args.keepUnresolved then false
      else config.blankFailures
    alias? := fun name =>
      (args.aliases.reverse.lookup name).or (config.aliases.find? name)
    script? := fun name =>
      (args.scripts.reverse.lookup name).map fun text =>
        ([.string text], 0) }

section Ends

variable (args : Arguments) (file : Text → Except Text Text)

/-- The configuration that the options are laid over. -/
inductive Configured : Config → Prop where
  | unnamed : args.config = none → Configured .default
  | named {path text : Text} {config : Config} :
      args.config = some path → file path = .ok text →
      Config.read text = .ok config → Configured config

/-- The data and the configuration can be read. -/
structure Readable (data : Json) (config : Config) : Prop where
  data_eq : Json.read args.data = .ok data
  configured : args.Configured file config

/-- All is well up to the rendering, which a session is fit for. -/
structure Ready (data : Json) (s : Session) (config : Config) : Prop
    extends Readable args file data config where
  aliases_fit : ∀ name, ¬ (args.tables config).Unfit name
  scripts_fit : ∀ script ∈ args.scripts, isIdentifier script.1 = true
  serves : s.Serves (args.tables config)

/-- What a run ends with. -/
inductive Ends : Outcome → Prop where
  | invalidData {e : Json.ReadError} :
      Json.read args.data = .error e →
      Ends (.failed (join ["Invalid JSON: ", e.message]))
  | unreadable {data : Json} {path why : Text} :
      Json.read args.data = .ok data →
      args.config = some path → file path = .error why →
      Ends (.failed (join ["cannot read ", path, ": ", why]))
  | invalidConfig {data : Json} {path text : Text} {e : Json.ReadError} :
      Json.read args.data = .ok data →
      args.config = some path → file path = .ok text →
      Config.read text = .error e →
      Ends (.failed (TemplateError.config e).message)
  | invalidAlias {data : Json} {config : Config} {name : Text} :
      args.Readable file data config →
      (args.tables config).Unfit name →
      (∀ other, (args.tables config).Unfit other → ¬ other < name) →
      Ends (.failed (TemplateError.invalidAlias name).message)
  | invalidScript {data : Json} {config : Config} {name text : Text}
      {before later : List (Text × Text)} :
      args.Readable file data config →
      (∀ name, ¬ (args.tables config).Unfit name) →
      args.scripts = before ++ (name, text) :: later →
      (∀ script ∈ before, isIdentifier script.1 = true) →
      isIdentifier name = false →
      Ends (.failed (TemplateError.invalidScript name).message)
  | refused {data : Json} {config : Config} {s : Session} :
      args.Ready file data s config → args.validate = true →
      (s.engine.pass s.turns data).failures ≠ [] →
      Ends (.failed (Failure.report (s.engine.pass s.turns data).failures))
  | rendered {data : Json} {config : Config} {s : Session} :
      args.Ready file data s config →
      (args.validate = true →
        (s.engine.pass s.turns data).failures = []) →
      Ends (.wrote (s.engine.pass s.turns data).text)

end Ends

-- ======================================================== the first stages

variable {args : Arguments} {file : Text → Except Text Text} {data : Json}
  {config : Config}

theorem readConfig_of_configured (h : args.Configured file config) :
    args.readConfig file = .ok config := by
  cases h with
  | unnamed hnone => rw [readConfig, hnone]
  | named hpath hfile hread =>
    rw [readConfig, hpath]
    simp only [hfile, hread]
    rfl

/-- With data and a configuration that can be read it goes on so. -/
theorem Readable.evaluate_eq (h : args.Readable file data config) :
    args.evaluate file = (do
      let e ← (Engine.withConfig args.template
        (args.applyTo config)).mapError TemplateError.message
      let (e, turns) ← (registerScripts e [] args.scripts).mapError
        TemplateError.message
      (e.render turns data args.validate).1.result.mapError
        TemplateError.message) := by
  rw [evaluate, h.data_eq, readConfig_of_configured h.configured]
  rfl

theorem run_of_error {message : Text}
    (h : args.evaluate file = .error message) :
    args.run file = .failed message := by
  rw [run, h]
  rfl

theorem run_of_ok {text : Text} (h : args.evaluate file = .ok text) :
    args.run file = .wrote text := by
  rw [run, h]
  rfl

-- ============================================================= the aliases

theorem alias?_tables (args : Arguments) (config : Config) :
    (args.tables config).alias? = (args.applyTo config).aliases.find? := by
  funext name
  exact (config.aliases.find?_insertAll args.aliases name).symm

/-- An engine is made if a template can refer to all aliases. -/
theorem exists_withConfig
    (h : ∀ name, ¬ (args.tables config).Unfit name) :
    ∃ e, Engine.withConfig args.template (args.applyTo config) = .ok e
      ∧ e.scripts = .empty
      ∧ ∀ turns, Session.tables ⟨e, turns⟩
          = { args.tables config with script? := fun _ => none } := by
  rcases Engine.withConfig_cases args.template (args.applyTo config) with
    ⟨-, hok⟩ | ⟨name, hsome, hnot, -⟩
  · refine ⟨_, hok, rfl, fun turns => ?_⟩
    refine Tables.ext rfl rfl ?_ ?_ rfl
    · show (config.blankFailures && !args.keepUnresolved)
        = if args.keepUnresolved then false else config.blankFailures
      cases args.keepUnresolved with
      | false => exact Bool.and_true _
      | true => exact Bool.and_false _
    · exact (args.alias?_tables config).symm
  · rw [← alias?_tables] at hsome
    exact absurd ⟨hsome, hnot⟩ (h name)

/-- Otherwise some name is the least that no template can refer to, and is
refused. -/
theorem exists_unfit_or (args : Arguments) (config : Config) :
    (∀ name, ¬ (args.tables config).Unfit name)
      ∨ ∃ name, (args.tables config).Unfit name
          ∧ (∀ other, (args.tables config).Unfit other → ¬ other < name)
          ∧ Engine.withConfig args.template (args.applyTo config)
              = .error (.invalidAlias name) := by
  have hunfit : ∀ name, (args.tables config).Unfit name
      ↔ ((args.applyTo config).aliases.find? name).isSome = true
        ∧ isIdentifier name = false := by
    intro name
    rw [Tables.Unfit, alias?_tables]
  rcases Engine.withConfig_cases args.template (args.applyTo config) with
    ⟨hfit, -⟩ | ⟨name, hsome, hnot, hleast, hrefused⟩
  · refine .inl fun name hname => ?_
    obtain ⟨hsome, hnot⟩ := (hunfit name).1 hname
    rw [hfit name hsome] at hnot
    cases hnot
  · refine .inr ⟨name, (hunfit name).2 ⟨hsome, hnot⟩, fun other hother => ?_,
      hrefused⟩
    obtain ⟨hsome', hnot'⟩ := (hunfit other).1 hother
    exact hleast other hsome' hnot'

/-- The least such name is the one that is refused. -/
theorem withConfig_of_unfit {name : Text}
    (h : (args.tables config).Unfit name)
    (hleast : ∀ other, (args.tables config).Unfit other → ¬ other < name) :
    Engine.withConfig args.template (args.applyTo config)
      = .error (.invalidAlias name) := by
  rcases args.exists_unfit_or config with hfit | hunfit
  · exact absurd h (hfit name)
  · obtain ⟨other, hother, hleast', hrefused⟩ := hunfit
    have heq : name = other :=
      List.le_antisymm (hleast other hother) (hleast' name h)
    rw [heq]
    exact hrefused

-- ============================================================= the scripts

/-- Scripts are made one after the other; of two with one name the later
one is left. -/
theorem exists_registerScripts {scripts : List (Text × Text)}
    (h : ∀ script ∈ scripts, isIdentifier script.1 = true) {s : Session}
    (hs : s.engine.scripts.Counted s.turns) :
    ∃ s' : Session,
      registerScripts s.engine s.turns scripts = .ok (s'.engine, s'.turns)
        ∧ s'.engine.scripts.Counted s'.turns
        ∧ s'.tables
            = { s.tables with
                script? := fun name =>
                  ((scripts.reverse.lookup name).map fun text =>
                    ([.string text], 0)).or (s.tables.script? name) } := by
  induction scripts generalizing s with
  | nil => exact ⟨s, rfl, hs, rfl⟩
  | cons script more ih =>
    obtain ⟨name, text⟩ := script
    obtain ⟨hname, hmore⟩ := List.forall_mem_cons.1 h
    obtain ⟨r, hregister, hdue, hcounted⟩ :=
      hs.exists_register hname [.json (.string text)]
    obtain ⟨s', hscripts, hcounted', htables⟩ :=
      ih hmore (s := ⟨{ s.engine with scripts := r }, s.turns.extend⟩)
        hcounted
    refine ⟨s', ?_, hcounted', ?_⟩
    · rw [registerScripts, Engine.registerScript, hregister]
      exact hscripts
    · refine htables.trans (Tables.ext rfl rfl rfl rfl ?_)
      funext other
      show ((more.reverse.lookup other).map _).or
          (r.due? s.turns.extend other)
        = ((((name, text) :: more).reverse.lookup other).map _).or _
      rw [hdue, lookup_reverse_cons, Option.map_or, Option.or_assoc]
      by_cases heq : other = name
      · rw [if_pos heq, if_pos heq]
        rfl
      · rw [if_neg heq, if_neg heq]
        rfl

/-- The first script with a name that no template can refer to is
refused. -/
theorem registerScripts_refused {before later : List (Text × Text)}
    {name : Text} (text : Text)
    (hbefore : ∀ script ∈ before, isIdentifier script.1 = true)
    (hname : isIdentifier name = false) (e : Engine) (turns : Turns) :
    registerScripts e turns (before ++ (name, text) :: later)
      = .error (.invalidScript name) := by
  induction before generalizing e turns with
  | nil =>
    rw [List.nil_append, registerScripts, Engine.registerScript,
      e.scripts.register_refused turns (by simp [hname])]
  | cons script more ih =>
    obtain ⟨other, text'⟩ := script
    obtain ⟨hother, hmore⟩ := List.forall_mem_cons.1 hbefore
    obtain ⟨r, hregister, -⟩ :=
      e.scripts.exists_register turns hother [.json (.string text')]
    rw [List.cons_append, registerScripts, Engine.registerScript, hregister]
    exact ih hmore _ _

/-- Either a template can refer to all scripts, or there is a first to
which none can. -/
theorem scripts_fit_or (scripts : List (Text × Text)) :
    (∀ script ∈ scripts, isIdentifier script.1 = true)
      ∨ ∃ before name text later,
          scripts = before ++ (name, text) :: later
          ∧ (∀ script ∈ before, isIdentifier script.1 = true)
          ∧ isIdentifier name = false := by
  cases hfirst : scripts.find? fun script => !isIdentifier script.1 with
  | none =>
    refine .inl fun script hscript => ?_
    simpa using List.find?_eq_none.1 hfirst script hscript
  | some script =>
    obtain ⟨hname, before, later, hscripts, hbefore⟩ :=
      List.find?_eq_some_iff_append.1 hfirst
    exact .inr ⟨before, script.1, script.2, later, hscripts,
      fun script hscript => by simpa using hbefore script hscript,
      by simpa using hname⟩

/-- With nothing wrong about aliases and scripts there is a session for
the rendering. -/
theorem exists_serving (haliases : ∀ name, ¬ (args.tables config).Unfit name)
    (hscripts : ∀ script ∈ args.scripts, isIdentifier script.1 = true) :
    ∃ (e : Engine) (s : Session),
      Engine.withConfig args.template (args.applyTo config) = .ok e
        ∧ registerScripts e [] args.scripts = .ok (s.engine, s.turns)
        ∧ s.Serves (args.tables config) := by
  obtain ⟨e, hwith, hempty, htables⟩ := exists_withConfig haliases
  have hstart : e.scripts.Counted [] := by
    rw [hempty]
    exact Registry.counted_empty []
  obtain ⟨s, hregister, hcounted, hs⟩ :=
    exists_registerScripts hscripts (s := ⟨e, []⟩) hstart
  refine ⟨e, s, hwith, hregister, ?_, hcounted⟩
  have hsame : s.tables = args.tables config := by
    rw [hs, htables]
    refine Tables.ext rfl rfl rfl rfl ?_
    funext name
    exact Option.or_none
  rw [hsame]
  exact .refl _ _

-- =========================================================== the rendering

/-- When all is well before, the rendering decides, whichever session is
used for it. -/
theorem Ready.run_eq {s : Session} (h : args.Ready file data s config) :
    args.run file
      = if args.validate && !(s.engine.pass s.turns data).failures.isEmpty
        then .failed
          (Failure.report (s.engine.pass s.turns data).failures)
        else .wrote (s.engine.pass s.turns data).text := by
  obtain ⟨e, s', hwith, hregister, hserves⟩ :=
    exists_serving h.aliases_fit h.scripts_fit
  have halike := hserves.pass h.serves data
  rw [← halike.failures_eq, ← halike.text_eq]
  have hevaluate : args.evaluate file
      = (s'.engine.render s'.turns data args.validate).1.result.mapError
          TemplateError.message := by
    rw [h.evaluate_eq, hwith]
    show (do
      let (e, turns) ← (registerScripts e [] args.scripts).mapError
        TemplateError.message
      (e.render turns data args.validate).1.result.mapError
        TemplateError.message) = _
    rw [hregister]
    rfl
  unfold Engine.render at hevaluate
  by_cases hinvalid : (args.validate
      && !(s'.engine.pass s'.turns data).failures.isEmpty) = true
  · rw [if_pos hinvalid]
    simp only [if_pos hinvalid] at hevaluate
    exact run_of_error hevaluate
  · rw [if_neg hinvalid]
    simp only [if_neg hinvalid] at hevaluate
    exact run_of_ok hevaluate

-- ============================================================ all stages

/-- A run ends as the first stage that fails says. -/
theorem run_of_ends {outcome : Outcome} (h : args.Ends file outcome) :
    args.run file = outcome := by
  cases h with
  | invalidData hdata =>
    apply run_of_error
    rw [evaluate, hdata]
    rfl
  | unreadable hdata hpath hfile =>
    apply run_of_error
    rw [evaluate, hdata, readConfig, hpath]
    simp only [hfile]
    rfl
  | invalidConfig hdata hpath hfile hread =>
    apply run_of_error
    rw [evaluate, hdata, readConfig, hpath]
    simp only [hfile, hread]
    rfl
  | invalidAlias hreadable hunfit hleast =>
    apply run_of_error
    rw [hreadable.evaluate_eq, withConfig_of_unfit hunfit hleast]
    rfl
  | invalidScript hreadable haliases hscripts hbefore hname =>
    obtain ⟨e, hwith, -⟩ := exists_withConfig haliases
    apply run_of_error
    rw [hreadable.evaluate_eq, hwith, hscripts]
    show (do
      let (e, turns) ← (registerScripts e [] _).mapError
        TemplateError.message
      (e.render turns _ args.validate).1.result.mapError
        TemplateError.message) = _
    rw [registerScripts_refused _ hbefore hname]
    rfl
  | refused hready hvalidate hfailures =>
    rw [hready.run_eq, hvalidate, Bool.true_and, if_pos]
    simpa using hfailures
  | rendered hready hfine =>
    rw [hready.run_eq, if_neg]
    intro hinvalid
    obtain ⟨hvalidate, hfailures⟩ := Bool.and_eq_true_iff.1 hinvalid
    rw [hfine hvalidate] at hfailures
    cases hfailures

/-- Every run ends in one of these ways. -/
theorem exists_ends (args : Arguments) (file : Text → Except Text Text) :
    ∃ outcome, args.Ends file outcome := by
  cases hdata : Json.read args.data with
  | error e => exact ⟨_, .invalidData hdata⟩
  | ok data =>
    have hconfig : (∃ config, args.Configured file config)
        ∨ ∃ outcome, args.Ends file outcome := by
      cases hpath : args.config with
      | none => exact .inl ⟨_, .unnamed hpath⟩
      | some path =>
        cases hfile : file path with
        | error why => exact .inr ⟨_, .unreadable hdata hpath hfile⟩
        | ok text =>
          cases hread : Config.read text with
          | error e => exact .inr ⟨_, .invalidConfig hdata hpath hfile hread⟩
          | ok config => exact .inl ⟨config, .named hpath hfile hread⟩
    rcases hconfig with ⟨config, hconfigured⟩ | hends
    · have hreadable : args.Readable file data config := ⟨hdata, hconfigured⟩
      rcases args.exists_unfit_or config with haliases | hunfit
      · rcases scripts_fit_or args.scripts with hscripts | hrefused
        · obtain ⟨e, s, -, -, hserves⟩ := exists_serving haliases hscripts
          have hready : args.Ready file data s config :=
            ⟨hreadable, haliases, hscripts, hserves⟩
          by_cases hfine : args.validate = true →
              (s.engine.pass s.turns data).failures = []
          · exact ⟨_, .rendered hready hfine⟩
          · obtain ⟨hvalidate, hfailures⟩ := Classical.not_imp.1 hfine
            exact ⟨_, .refused hready hvalidate hfailures⟩
        · obtain ⟨before, name, text, later, hscripts, hbefore, hname⟩ :=
            hrefused
          exact ⟨_, .invalidScript hreadable haliases hscripts hbefore hname⟩
      · obtain ⟨name, hname, hleast, -⟩ := hunfit
        exact ⟨_, .invalidAlias hreadable hname hleast⟩
    · exact hends

/-- What a run leaves is what its first stage that fails says, or what is
rendered if none does. -/
theorem run_eq_iff (args : Arguments) (file : Text → Except Text Text)
    (outcome : Outcome) :
    args.run file = outcome ↔ args.Ends file outcome := by
  constructor
  · intro hrun
    obtain ⟨outcome', hends⟩ := args.exists_ends file
    rw [← hrun, run_of_ends hends]
    exact hends
  · intro hends
    exact run_of_ends hends

/-- With two aliases and a script that no template can refer to, the alias
with the lesser name is told of. -/
example (file : Text → Except Text Text) :
    run
        { template := []
          data := "\x7b\x7d"
          jsonFields := []
          aliases := [(['b', '-'], ['x']), (['a', '-'], ['y'])]
          scripts := [(['1'], [])]
          config := none
          validate := true
          keepUnresolved := false } file
      = .failed (TemplateError.invalidAlias ['a', '-']).message := by
  cbv

end Arguments

end Command

end Stencil
