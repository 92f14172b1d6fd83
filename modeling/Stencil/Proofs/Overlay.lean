/-
Options and the configuration file stand for one another.

A name of a field, an alias, and the wish to keep what has no value can
be said by options or in the configuration file. What options say is laid
over the file (`Overlaid`): names of fields are added, of several paths
for a name the last one counts, and failures are kept as soon as one asks
for it. A command line with such options leaves the same as one that says
the rest alone, with a file in which the configuration so overlaid is
printed; this goes for wrong names of aliases, too. The order of the names
of fields does not matter, nor does that of aliases with different names.

# The argument

Leaving out items from a written line leaves a written line
(`Written.exists_filter`). Taking in an item that is left out changes
nothing but what it says, and taking in another does not look at that
(`Draft.Takes.bare`); so the rest is understood as the same arguments
without these options. Their stages are the same from the configuration
on, as laying nothing over a configuration leaves it as it is, and the
printed one is read as it was (`Config.read_print`). As for the order, the
tables are the same but for the order of the fields (`Ends.reordered`).

Main statement: `run_overlaid`.
-/
import Mathlib.Data.List.Forall2
import Stencil.Proofs.CommandLine
import Stencil.Proofs.ConfigRoundTrip
import Stencil.Proofs.Stages

namespace Stencil.Command

open Text

-- ================================================ statement vocabulary

/-- A name and a text are given by an argument: what stands in front of
its first `=` is the name, but for the white space around it, and what
stands behind is the text. -/
def Splits (argument : Text) (pair : Text × Text) : Prop :=
  ∃ before after, Blank before ∧ Blank after
    ∧ '=' ∉ pair.1 ∧ trim pair.1 = pair.1
    ∧ argument = before ++ pair.1 ++ after ++ '=' :: pair.2

namespace Item

/-- The value, if it is one for this option. -/
def value? (option : Valued) : Item → Option Text
  | value other text => if other = option then some text else none
  | _ => none

/-- Whether the item says what a configuration could say as well. -/
def overlays : Item → Bool
  | value .jsonField _ => true
  | value .aliasPath _ => true
  | switch .keepUnresolved => true
  | _ => false

end Item

/-- What is left of items without those that a configuration could
replace. -/
def bareItems (items : List Item) : List Item :=
  items.filter fun item => !item.overlays

/-- A configuration with what the items say laid over it. -/
structure Overlaid (config : Config) (items : List Item)
    (merged : Config) : Prop where
  jsonFields_eq : merged.jsonFields
    = config.jsonFields ++ items.filterMap (Item.value? .jsonField)
  exists_aliases : ∃ pairs,
    List.Forall₂ Splits (items.filterMap (Item.value? .aliasPath)) pairs
      ∧ ∀ name, merged.aliases.find? name
          = (pairs.reverse.lookup name).or (config.aliases.find? name)
  blankFailures_eq : merged.blankFailures
    = if .switch .keepUnresolved ∈ items then false
      else config.blankFailures

/-- The draft without what a configuration could say as well. -/
def Draft.bare (d : Draft) : Draft :=
  { d with jsonFields := [], aliases := [], keepUnresolved := false }

/-- The arguments without what a configuration could say as well. -/
def Arguments.bare (args : Arguments) : Arguments :=
  { args with jsonFields := [], aliases := [], keepUnresolved := false }

/-- What items add to a draft of what a configuration could say. -/
structure Draft.Gains (d : Draft) (items : List Item) (d' : Draft) :
    Prop where
  jsonFields_eq : d'.jsonFields
    = d.jsonFields ++ items.filterMap (Item.value? .jsonField)
  exists_aliases : ∃ pairs,
    List.Forall₂ Splits (items.filterMap (Item.value? .aliasPath)) pairs
      ∧ d'.aliases = d.aliases ++ pairs
  keepUnresolved_iff : d'.keepUnresolved = true
    ↔ d.keepUnresolved = true ∨ .switch .keepUnresolved ∈ items

-- ================================================================= pairs

theorem pair?_eq_some_iff {argument : Text} {pair : Text × Text} :
    pair? argument = some pair ↔ Splits argument pair := by
  constructor
  · intro h
    by_cases hcut : '=' ∈ argument
    · obtain ⟨front, text, rfl, hfront⟩ := List.eq_append_cons_of_mem hcut
      rw [pair?, dropWhile_cut text hfront, takeWhile_cut text hfront] at h
      cases h
      obtain ⟨before, after, hbefore, hafter, heq⟩ := exists_eq_trim front
      refine ⟨before, after, hbefore, hafter, fun hmem => hfront ?_,
        trim_trim front, by rw [← heq]⟩
      rw [heq]
      exact List.mem_append_left _ (List.mem_append_right _ hmem)
    · rw [pair?, dropWhile_uncut hcut] at h
      cases h
  · rintro ⟨before, after, hbefore, hafter, hname, htrim, rfl⟩
    have hfront : '=' ∉ before ++ pair.1 ++ after := by
      intro hmem
      rcases List.mem_append.1 hmem with hmem | hmem
      · rcases List.mem_append.1 hmem with hmem | hmem
        · exact hbefore.not_mem (by decide) hmem
        · exact hname hmem
      · exact hafter.not_mem (by decide) hmem
    rw [pair?, dropWhile_cut _ hfront, takeWhile_cut _ hfront]
    show some (trim (before ++ pair.1 ++ after), pair.2) = _
    rw [trim_surrounded hbefore hafter, htrim]

/-- An argument gives one name and one text. -/
theorem splits_unique : Relator.RightUnique Splits := by
  intro argument pair pair' h h'
  have hpair := pair?_eq_some_iff.2 h
  rw [pair?_eq_some_iff.2 h'] at hpair
  cases hpair
  rfl

-- ================================================= what the options say

namespace Draft

variable {d d' d'' : Draft} {items more : List Item} {item : Item}

theorem Gains.trans (h : d.Gains items d') (h' : d'.Gains more d'') :
    d.Gains (items ++ more) d'' := by
  obtain ⟨pairs, hpairs, haliases⟩ := h.exists_aliases
  obtain ⟨pairs', hpairs', haliases'⟩ := h'.exists_aliases
  refine ⟨?_, ⟨pairs ++ pairs', ?_, ?_⟩, ?_⟩
  · rw [h'.jsonFields_eq, h.jsonFields_eq, List.filterMap_append,
      List.append_assoc]
  · rw [List.filterMap_append]
    exact List.rel_append hpairs hpairs'
  · rw [haliases', haliases, List.append_assoc]
  · rw [h'.keepUnresolved_iff, h.keepUnresolved_iff, List.mem_append,
      or_assoc]

theorem Takes.gains (h : d.Takes item d') : d.Gains [item] d' := by
  cases h with
  | jsonField name =>
    exact ⟨rfl, ⟨[], .nil, (List.append_nil _).symm⟩, by simp⟩
  | @aliasPath text pair hpair =>
    exact ⟨(List.append_nil _).symm,
      ⟨[pair], .cons (pair?_eq_some_iff.1 hpair) .nil, rfl⟩, by simp⟩
  | keepUnresolved =>
    exact ⟨(List.append_nil _).symm,
      ⟨[], .nil, (List.append_nil _).symm⟩, by simp⟩
  | operand | scriptText | config | validate =>
    exact ⟨(List.append_nil _).symm,
      ⟨[], .nil, (List.append_nil _).symm⟩, by simp⟩

/-- What all items together add. -/
theorem gains_of_takeAll? (h : d.takeAll? items = some d') :
    d.Gains items d' := by
  induction items generalizing d with
  | nil =>
    cases h
    exact ⟨(List.append_nil _).symm,
      ⟨[], .nil, (List.append_nil _).symm⟩, by simp⟩
  | cons item more ih =>
    obtain ⟨d₁, htakes, hmore⟩ := takeAll?_cons_eq_some_iff.1 h
    exact htakes.gains.trans (ih hmore)

-- ================================================= without these options

/-- An item that is left out would have changed nothing else, and any
other one is taken in all the same. -/
theorem Takes.bare (h : d.Takes item d') :
    if item.overlays then d'.bare = d.bare
    else d.bare.Takes item d'.bare := by
  cases h with
  | jsonField | aliasPath | keepUnresolved => rfl
  | operand hlength => exact .operand hlength
  | scriptText hpair => exact .scriptText hpair
  | config hnone hpath => exact .config hnone hpath
  | validate hoff => exact .validate hoff

theorem takeAll?_bare (h : d.takeAll? items = some d') :
    d.bare.takeAll? (bareItems items) = some d'.bare := by
  induction items generalizing d with
  | nil =>
    cases h
    rfl
  | cons item more ih =>
    obtain ⟨d₁, htakes, hmore⟩ := takeAll?_cons_eq_some_iff.1 h
    have hbare := htakes.bare
    rw [bareItems]
    by_cases hitem : item.overlays = true
    · rw [if_pos hitem] at hbare
      rw [List.filter_cons_of_neg (by simpa using hitem), ← hbare]
      exact ih hmore
    · rw [if_neg hitem] at hbare
      rw [List.filter_cons_of_pos (by simpa using hitem)]
      exact takeAll?_cons_eq_some_iff.2 ⟨_, hbare, ih hmore⟩

theorem eq_of_finish {args : Arguments} (h : d.finish = .ok args) :
    d.bare.finish = .ok args.bare ∧ args.jsonFields = d.jsonFields
      ∧ args.aliases = d.aliases
      ∧ args.keepUnresolved = d.keepUnresolved := by
  obtain ⟨operands, jsonFields, aliases, scripts, config, validate, keep⟩ := d
  match operands with
  | [] => cases h
  | [_] => cases h
  | template :: data :: _ =>
    cases h
    exact ⟨rfl, rfl, rfl, rfl⟩

end Draft

/-- Items other than operands can be left out of a line. -/
theorem Written.exists_filter {arguments : List Text} {items : List Item}
    {keep : Item → Bool} (hkeep : ∀ text, keep (.operand text) = true)
    (h : Written arguments items) :
    ∃ arguments', Written arguments' (items.filter keep) := by
  induction h with
  | nil => exact ⟨[], .nil⟩
  | operands texts =>
    have hall : (texts.map Item.operand).filter keep
        = texts.map .operand := by
      rw [List.filter_eq_self]
      intro item hitem
      obtain ⟨text, -, rfl⟩ := List.mem_map.1 hitem
      exact hkeep text
    rw [hall]
    exact ⟨_, .operands texts⟩
  | @alone argument item arguments items hspells _ ih =>
    obtain ⟨rest, hrest⟩ := ih
    by_cases hitem : keep item = true
    · rw [List.filter_cons_of_pos hitem]
      exact ⟨_, .alone hspells hrest⟩
    · rw [List.filter_cons_of_neg hitem]
      exact ⟨rest, hrest⟩
  | @apart name text option arguments items hname hloose _ ih =>
    obtain ⟨rest, hrest⟩ := ih
    by_cases hitem : keep (.value option text) = true
    · rw [List.filter_cons_of_pos hitem]
      exact ⟨_, .apart hname hloose hrest⟩
    · rw [List.filter_cons_of_neg hitem]
      exact ⟨rest, hrest⟩

/-- A line without these options is understood as the same arguments
without them. -/
theorem parse_bare {line line' : List Text} {items : List Item}
    {args : Arguments} (h : Written line items)
    (h' : Written line' (bareItems items)) (hparse : parse line = .ok args) :
    parse line' = .ok args.bare := by
  obtain ⟨d, htake, hfinish⟩ := (parse_eq_ok_iff_of_written h).1 hparse
  rw [parse_eq_ok_iff_of_written h']
  exact ⟨d.bare, Draft.takeAll?_bare htake, (Draft.eq_of_finish hfinish).1⟩

-- ===================================================== the configuration

namespace Arguments

variable {args : Arguments} {config merged : Config} {path text : Text}
  {file file' : Text → Except Text Text}

/-- What the items say is what the arguments lay over a configuration. -/
theorem overlaid_iff {line : List Text} {items : List Item}
    (hwritten : Written line items) (hparse : parse line = .ok args) :
    Overlaid config items merged ↔ merged = args.applyTo config := by
  obtain ⟨d, htake, hfinish⟩ :=
    (parse_eq_ok_iff_of_written hwritten).1 hparse
  obtain ⟨-, hfields, haliases, hkeep⟩ := Draft.eq_of_finish hfinish
  have hgains := Draft.gains_of_takeAll? htake
  have hfields' : (args.applyTo config).jsonFields
      = config.jsonFields ++ items.filterMap (Item.value? .jsonField) := by
    show config.jsonFields ++ args.jsonFields = _
    rw [hfields, hgains.jsonFields_eq]
    rfl
  obtain ⟨pairs, hpairs, hd⟩ := hgains.exists_aliases
  have hall : args.aliases = pairs := haliases.trans hd
  have hfind : ∀ name, (args.applyTo config).aliases.find? name
      = (pairs.reverse.lookup name).or (config.aliases.find? name) := by
    intro name
    rw [← hall]
    exact config.aliases.find?_insertAll args.aliases name
  have hflag : (args.applyTo config).blankFailures
      = if .switch .keepUnresolved ∈ items then false
        else config.blankFailures := by
    show (config.blankFailures && !args.keepUnresolved) = _
    rw [hkeep]
    by_cases hmem : .switch .keepUnresolved ∈ items
    · rw [if_pos hmem, hgains.keepUnresolved_iff.2 (.inr hmem),
        Bool.not_true, Bool.and_false]
    · have hoff : d.keepUnresolved = false := by
        rw [Bool.eq_false_iff]
        intro hon
        rcases hgains.keepUnresolved_iff.1 hon with hempty | hitem
        · cases hempty
        · exact hmem hitem
      rw [if_neg hmem, hoff, Bool.not_false, Bool.and_true]
  constructor
  · intro h
    obtain ⟨pairs', hpairs', hfind'⟩ := h.exists_aliases
    have hsame : pairs' = pairs :=
      List.right_unique_forall₂' splits_unique hpairs' hpairs
    have htable : merged.aliases = (args.applyTo config).aliases := by
      refine Table.ext_find? fun name => ?_
      rw [hfind, hfind', hsame]
    calc merged
        = ⟨merged.jsonFields, merged.aliases, merged.blankFailures⟩ := rfl
      _ = args.applyTo config := by
        rw [h.jsonFields_eq, htable, h.blankFailures_eq, ← hfields',
          ← hflag]
  · rintro rfl
    exact ⟨hfields', ⟨pairs, hpairs, hfind⟩, hflag⟩

/-- Nothing laid over a configuration leaves it as it is. -/
theorem applyTo_bare (args : Arguments) (config : Config) :
    args.bare.applyTo config = config := by
  show Config.mk (config.jsonFields ++ []) config.aliases
    (config.blankFailures && true) = config
  rw [List.append_nil, Bool.and_true]

/-- With the overlaid configuration in the file, the arguments that were
laid over it are not needed. -/
theorem run_bare (hpath : args.config = some path)
    (hfile : file path = .ok text) (hread : Config.read text = .ok config)
    (hfile' : file' path = .ok (args.applyTo config).print) :
    args.bare.run file' = args.run file := by
  have hevaluate : args.bare.evaluate file' = args.evaluate file := by
    cases hdata : Json.read args.data with
    | error e =>
      have hdata' : Json.read args.bare.data = .error e := hdata
      rw [evaluate, evaluate, hdata, hdata']
      rfl
    | ok data =>
      have hreadable : args.Readable file data config :=
        ⟨hdata, .named hpath hfile hread⟩
      have hreadable' : args.bare.Readable file' data
          (args.applyTo config) :=
        ⟨hdata, .named hpath hfile' (Config.read_print _)⟩
      rw [hreadable.evaluate_eq, hreadable'.evaluate_eq, applyTo_bare]
      rfl
  rw [run, run, hevaluate]

-- ============================================================== the order

/-- The names of fields in another order, with aliases of which the last
for each name is the same, say the same. -/
theorem tables_reordered {fields : List Text} {aliases : List (Text × Text)}
    (hfields : fields.Perm args.jsonFields)
    (haliases : ∀ name,
      aliases.reverse.lookup name = args.aliases.reverse.lookup name)
    (config : Config) :
    (args.tables config).AgreeOn (fun _ => True)
      ({ args with jsonFields := fields, aliases := aliases }.tables
        config) where
  source_eq := rfl
  jsonFields_iff name := (hfields.append_left config.jsonFields).mem_iff.symm
  blankFailures_eq := rfl
  alias_eq name _ := by
    show (args.aliases.reverse.lookup name).or _
      = (aliases.reverse.lookup name).or _
    rw [haliases]
  script_eq _ _ := rfl

/-- A run ends the same with arguments that differ in tables which
agree. -/
theorem Ends.congr {args' : Arguments} {outcome : Outcome}
    (h : args.Ends file outcome) (hdata : args'.data = args.data)
    (hpath : args'.config = args.config)
    (hscripts : args'.scripts = args.scripts)
    (hvalidate : args'.validate = args.validate)
    (htables : ∀ config,
      (args.tables config).AgreeOn (fun _ => True) (args'.tables config)) :
    args'.Ends file outcome := by
  have hreadable : ∀ {data config}, args.Readable file data config →
      args'.Readable file data config := by
    intro data config hread
    refine ⟨hdata ▸ hread.data_eq, ?_⟩
    cases hread.configured with
    | unnamed hnone => exact .unnamed (hpath.trans hnone)
    | named hsome hfile hconfig =>
      exact .named (hpath.trans hsome) hfile hconfig
  have hunfit : ∀ {config} name,
      (args'.tables config).Unfit name ↔ (args.tables config).Unfit name := by
    intro config name
    unfold Tables.Unfit
    rw [(htables config).alias_eq name trivial]
  have hready : ∀ {data s config}, args.Ready file data s config →
      args'.Ready file data s config := by
    intro data s config hall
    exact
      { hreadable hall.toReadable with
        aliases_fit := fun name hname =>
          hall.aliases_fit name ((hunfit name).1 hname)
        scripts_fit := hscripts ▸ hall.scripts_fit
        serves := ⟨hall.serves.tables_agree.trans (htables config),
          hall.serves.counted⟩ }
  cases h with
  | invalidData hread => exact .invalidData (hdata ▸ hread)
  | unreadable hread hsome hfile =>
    exact .unreadable (hdata ▸ hread) (hpath.trans hsome) hfile
  | invalidConfig hread hsome hfile hconfig =>
    exact .invalidConfig (hdata ▸ hread) (hpath.trans hsome) hfile hconfig
  | invalidAlias hread hname hleast =>
    exact .invalidAlias (hreadable hread) ((hunfit _).2 hname)
      fun other hother => hleast other ((hunfit other).1 hother)
  | invalidScript hread haliases hall hbefore hname =>
    exact .invalidScript (hreadable hread)
      (fun name hunfit' => haliases name ((hunfit name).1 hunfit'))
      (hscripts.trans hall) hbefore hname
  | refused hall hon hfailures =>
    exact .refused (hready hall) (hvalidate.trans hon) hfailures
  | rendered hall hfine =>
    exact .rendered (hready hall) fun hon => hfine (hvalidate ▸ hon)

/-- The order does not show. -/
theorem run_reordered {fields : List Text} {aliases : List (Text × Text)}
    (hfields : fields.Perm args.jsonFields)
    (haliases : ∀ name,
      aliases.reverse.lookup name = args.aliases.reverse.lookup name) :
    { args with jsonFields := fields, aliases := aliases }.run file
      = args.run file := by
  obtain ⟨outcome, hends⟩ := args.exists_ends file
  have htables := tables_reordered hfields haliases
  rw [run_of_ends hends]
  exact run_of_ends (hends.congr rfl rfl rfl rfl htables)

end Arguments

-- ===================================================== whole command lines

theorem run_of_parse {line : List Text} {args : Arguments}
    (h : parse line = .ok args) (file : Text → Except Text Text) :
    run line file = args.run file := by
  rw [run, h]

theorem exists_parse_of_configPath? {line : List Text} {path : Text}
    (h : configPath? line = some path) :
    ∃ args, parse line = .ok args ∧ args.config = some path := by
  unfold configPath? at h
  cases hparse : parse line with
  | error stop =>
    rw [hparse] at h
    cases h
  | ok args =>
    rw [hparse] at h
    exact ⟨args, rfl, h⟩

/-- A command line that names a file with a configuration leaves the same
as one without the options that a configuration could replace, with what
they say laid over the configuration in the file. The order of those
options does not matter, as long as that of the aliases for each name
stays. -/
theorem run_overlaid {line : List Text} {path text : Text} {config : Config}
    {file : Text → Except Text Text} (hpath : configPath? line = some path)
    (hfile : file path = .ok text) (hread : Config.read text = .ok config) :
    (∃ items, Written line items)
      ∧ (∀ items, Written line items →
          (∃ line', Written line' (bareItems items))
            ∧ (∃ merged, Overlaid config items merged)
            ∧ ∀ line' merged file', Written line' (bareItems items) →
                Overlaid config items merged →
                file' path = .ok merged.print →
                run line' file' = run line file)
      ∧ ∀ line' args fields aliases, parse line = .ok args →
          parse line'
            = .ok { args with jsonFields := fields, aliases := aliases } →
          fields.Perm args.jsonFields →
          (∀ name, aliases.filter (fun pair => pair.1 == name)
            = args.aliases.filter fun pair => pair.1 == name) →
          run line' file = run line file := by
  obtain ⟨args, hparse, hconfig⟩ := exists_parse_of_configPath? hpath
  refine ⟨exists_written hparse, fun items hitems => ⟨?_, ?_, ?_⟩, ?_⟩
  · exact hitems.exists_filter fun text => rfl
  · exact ⟨_, (Arguments.overlaid_iff hitems hparse).2 rfl⟩
  · intro line' merged file' hitems' hmerged hfile'
    rw [(Arguments.overlaid_iff hitems hparse).1 hmerged] at hfile'
    rw [run_of_parse hparse, run_of_parse (parse_bare hitems hitems' hparse)]
    exact Arguments.run_bare hconfig hfile hread hfile'
  · intro line' args' fields aliases hparse' hline' hfields haliases
    rw [run_of_parse hparse', run_of_parse hline']
    apply Arguments.run_reordered hfields
    intro name
    rw [lookup_eq_head?_filter, lookup_eq_head?_filter, List.filter_reverse,
      List.filter_reverse, haliases]

/-- An alias that the file has is given another path, with white space
around its name and a second `=` in the path. -/
theorem run_overlaid_renamed :
    let config : Config := ⟨["j"], (∅ : Table Text).insert ['a'] ['z'], true⟩
    let merged : Config :=
      ⟨["j", "k"], (∅ : Table Text).insert ['a'] ['x', '=', 'y'], false⟩
    let line : List Text :=
      ["--config=f", "--alias", " a =x=y", "--json-field=k",
        "--keep-unresolved", "$\x7balias:a\x7d", "\x7b\x7d"]
    let line' : List Text :=
      ["--config", "f", "$\x7balias:a\x7d", "\x7b\x7d"]
    configPath? line = some ['f']
      ∧ run line' (fun _ => .ok merged.print)
        = run line fun _ => .ok config.print := by
  intro config merged line line'
  have hpath : configPath? line = some ['f'] := by decide +kernel
  let items : List Item :=
    [.value .config ['f'], .value .aliasPath " a =x=y",
      .value .jsonField ['k'], .switch .keepUnresolved,
      .operand "$\x7balias:a\x7d", .operand "\x7b\x7d"]
  have hloose : ∀ t : Text, t.head? ≠ some '-' → Loose t := by
    intro t hhead c rest heq
    rw [heq] at hhead
    exact hhead rfl
  have hconfig : options.lookup "config".toList
      = some (.valued .config) := by
    decide +kernel
  have hpair : pair? " a =x=y" = some (['a'], ['x', '=', 'y']) := by
    decide +kernel
  have hoperands : Written ["$\x7balias:a\x7d", "\x7b\x7d"]
      [.operand "$\x7balias:a\x7d", .operand "\x7b\x7d"] :=
    .alone (.operand (hloose _ (by decide +kernel)))
      (.alone (.operand (hloose _ (by decide +kernel))) .nil)
  have hitems : Written line items := by
    refine .alone (.value ['f'] hconfig) ?_
    refine @Written.apart "alias" " a =x=y" .aliasPath _ _ ?_ ?_ ?_
    · decide +kernel
    · exact hloose _ (by decide +kernel)
    refine .alone (@Spells.value "json-field" .jsonField ['k'] ?_) ?_
    · decide +kernel
    refine .alone (@Spells.switch "keep-unresolved" .keepUnresolved ?_) ?_
    · decide +kernel
    exact hoperands
  have hitems' : Written line' (bareItems items) :=
    .apart hconfig (hloose ['f'] (by decide +kernel)) hoperands
  have hmerged : Overlaid config items merged := by
    refine ⟨rfl, ⟨[(['a'], ['x', '=', 'y'])],
      .cons (pair?_eq_some_iff.1 hpair) .nil, fun name => ?_⟩, rfl⟩
    show (Table.insert ∅ ['a'] ['x', '=', 'y']).find? name
      = ([(['a'], ['x', '=', 'y'])].lookup name).or
          ((Table.insert ∅ ['a'] ['z']).find? name)
    rw [Table.find?_insert, Table.find?_insert, List.lookup_cons]
    by_cases heq : name = ['a']
    · rw [if_pos heq, beq_iff_eq.2 heq]
      rfl
    · rw [if_neg heq, if_neg heq, beq_eq_false_iff_ne.2 heq]
      rfl
  have hfile : (fun _ : Text => (.ok config.print : Except Text Text)) ['f']
      = .ok config.print := rfl
  exact ⟨hpath, ((run_overlaid hpath hfile (Config.read_print config)).2.1
    items hitems).2.2 line' merged _ hitems' hmerged rfl⟩

end Stencil.Command
