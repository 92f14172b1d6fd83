/-
The language of configurations.

A text is read as a configuration just when it is one of the forms of a
list of settings (`Described`): an object whose members have different
names, or an array with the first few values in their order. What is read
is the configuration that says what the settings say, with the defaults for
the others (`Says`). The order of the members, the white space and the
escapes are no part of that.

# The argument

For each kind of value, the reader takes its written forms (`Accepts`).
Both outer shapes are then read to the same end: the settings are put into
a draft one after the other. The members of an object are refused where
one comes again, so that all that get through have different names
(`foldlM_enter_eq_some_iff`); an array is gone through by its three steps,
each of which may be the last (`readNext_eq_ok_iff`). Since settings with
different names do not disturb each other, a finished draft says what each
of them says, whatever their order (`says_foldl_set`).

Main statement: `read_language`.
-/
import Stencil.Config.Reader
import Stencil.Proofs.JsonForms

namespace Stencil.Config

open Json Json.Reader

-- ================================================ statement vocabulary

/-- A member of a configuration and its value. -/
inductive Setting where
  | jsonFields (names : List Text)
  | aliases (table : Table Text)
  | blankFailures (b : Bool)

namespace Setting

/-- The name of the member. -/
def name : Setting → Text
  | jsonFields _ => jsonFieldsName
  | aliases _ => aliasesName
  | blankFailures _ => blankFailuresName

/-- The text is a form of the value: a list of strings, an object of
strings, of which the last for a name counts, or a truth value. -/
def Spelled (t : Text) : Setting → Prop
  | jsonFields names => Listed '[' ']' Quoted t names
  | aliases table => ∃ entries,
      Listed '{' '}' (Member Prod.fst fun form entry => Quoted form entry.2)
          t entries
        ∧ ∀ name, table.find? name = entries.reverse.lookup name
  | blankFailures b => t = if b then "true" else "false"

/-- The configuration has this value for the member. -/
def In (c : Config) : Setting → Prop
  | jsonFields names => c.jsonFields = names
  | aliases table => c.aliases = table
  | blankFailures b => c.blankFailures = b

end Setting

/-- The text is a form of these settings: an object that has none of the
members twice, or an array of the values, which are those of the first
members in their order. -/
inductive Described (t : Text) (settings : List Setting) : Prop where
  | object :
      Listed '{' '}' (Member Setting.name Setting.Spelled) t settings →
      (settings.map Setting.name).Nodup → Described t settings
  | array :
      Listed '[' ']' Setting.Spelled t settings →
      settings.map Setting.name <+: memberNames → Described t settings

/-- What holds for the members that are not there. -/
def defaults : List Setting :=
  [.jsonFields [], .aliases ∅, .blankFailures true]

/-- The configuration has what the settings say, and the defaults for
what they do not name. -/
structure Says (settings : List Setting) (c : Config) : Prop where
  given : ∀ s ∈ settings, s.In c
  missing : ∀ s ∈ defaults, s.name ∉ settings.map Setting.name → s.In c

-- =============================================================== settings

/-- The configuration with another value for one of its members. -/
def set (c : Config) : Setting → Config
  | .jsonFields names => { c with jsonFields := names }
  | .aliases table => { c with aliases := table }
  | .blankFailures b => { c with blankFailures := b }

namespace Setting

variable {s s' : Setting} {c : Config} {settings : List Setting}

theorem in_set (s : Setting) (c : Config) : s.In (c.set s) := by
  cases s <;> rfl

/-- Setting one member leaves the others as they are. -/
theorem in_set_iff (h : s.name ≠ s'.name) : s.In (c.set s') ↔ s.In c := by
  cases s <;> cases s' <;> first | exact Iff.rfl | exact absurd rfl h

theorem in_foldl_set_iff (h : s.name ∉ settings.map name) :
    s.In (settings.foldl set c) ↔ s.In c := by
  induction settings generalizing c with
  | nil => rfl
  | cons s' settings ih =>
    rw [List.map_cons, List.mem_cons, not_or] at h
    obtain ⟨hname, hrest⟩ := h
    rw [List.foldl_cons, ih hrest, in_set_iff hname]

/-- Of members with different names, each is as it was set. -/
theorem in_foldl_set (hnames : (settings.map name).Nodup)
    (hs : s ∈ settings) : s.In (settings.foldl set c) := by
  induction settings generalizing c with
  | nil => cases hs
  | cons s' settings ih =>
    obtain ⟨hname, hnames⟩ := List.nodup_cons.1 hnames
    rcases List.mem_cons.1 hs with rfl | hs
    · exact (in_foldl_set_iff hname).2 (in_set s c)
    · exact ih hnames hs

theorem exists_default (s : Setting) : ∃ s' ∈ defaults, s'.name = s.name := by
  cases s with
  | jsonFields => exact ⟨.jsonFields [], by simp [defaults], rfl⟩
  | aliases => exact ⟨.aliases ∅, by simp [defaults], rfl⟩
  | blankFailures => exact ⟨.blankFailures true, by simp [defaults], rfl⟩

/-- A configuration has no more than one value for a member. -/
theorem eq_of_in (hname : s.name = s'.name) (h : s.In c) (h' : s'.In c) :
    s = s' := by
  cases s <;> cases s' <;> simp only [name] at hname
  case jsonFields.jsonFields => exact congrArg _ (h.symm.trans h')
  case aliases.aliases => exact congrArg _ (h.symm.trans h')
  case blankFailures.blankFailures => exact congrArg _ (h.symm.trans h')
  all_goals exact absurd hname (by decide)

theorem eq_of_forall_in {c' : Config} (h : ∀ s : Setting, s.In c → s.In c') :
    c = c' := by
  have hfields := h (.jsonFields c.jsonFields) rfl
  have haliases := h (.aliases c.aliases) rfl
  have hblank := h (.blankFailures c.blankFailures) rfl
  cases c
  cases c'
  cases hfields
  cases haliases
  cases hblank
  rfl

theorem in_default (hs : s ∈ defaults) : s.In default := by
  simp only [defaults, List.mem_cons, List.not_mem_nil, or_false] at hs
  rcases hs with rfl | rfl | rfl <;> rfl

end Setting

section Meaning

variable {settings settings' : List Setting} {c c' : Config}

/-- Settings with different names say what they set one after the
other. -/
theorem says_foldl_set (hnames : (settings.map Setting.name).Nodup) :
    Says settings (settings.foldl set default) where
  given _ hs := Setting.in_foldl_set hnames hs
  missing _ hs hname :=
    (Setting.in_foldl_set_iff hname).2 (Setting.in_default hs)

/-- Each member is said to have some value, be it only the default. -/
theorem Says.exists_in (h : Says settings c) (h' : Says settings c')
    (s : Setting) : ∃ s' : Setting, s'.name = s.name ∧ s'.In c ∧ s'.In c' := by
  by_cases hname : s.name ∈ settings.map Setting.name
  · obtain ⟨s', hs', hsame⟩ := List.mem_map.1 hname
    exact ⟨s', hsame, h.given s' hs', h'.given s' hs'⟩
  · obtain ⟨s', hs', hsame⟩ := s.exists_default
    rw [← hsame] at hname
    exact ⟨s', hsame, h.missing s' hs' hname, h'.missing s' hs' hname⟩

/-- Settings say no more than one configuration. -/
theorem Says.unique (h : Says settings c) (h' : Says settings c') :
    c = c' := by
  -- each value of the one has to be that of the other
  refine Setting.eq_of_forall_in fun s hs => ?_
  obtain ⟨s', hname, hc, hc'⟩ := h.exists_in h' s
  rwa [← Setting.eq_of_in hname hc hs]

/-- What settings say does not depend on their order. -/
theorem Says.of_perm (h : Says settings c) (hperm : settings.Perm settings') :
    Says settings' c where
  given s hs := h.given s (hperm.mem_iff.2 hs)
  missing s hs hname := h.missing s hs fun hmem =>
    hname ((hperm.map Setting.name).mem_iff.1 hmem)

end Meaning

-- ================================================================= drafts

namespace Draft

/-- The draft with the value of a member put in. -/
def put (d : Draft) : Setting → Draft
  | .jsonFields names => { d with jsonFields := some names }
  | .aliases table => { d with aliases := some table }
  | .blankFailures b => { d with blankFailures := some b }

/-- Whether the member has been read. -/
def has (d : Draft) : Setting → Bool
  | .jsonFields _ => d.jsonFields.isSome
  | .aliases _ => d.aliases.isSome
  | .blankFailures _ => d.blankFailures.isSome

/-- The draft with a member that has not been read before. -/
def enter (d : Draft) (s : Setting) : Option Draft :=
  if d.has s then none else some (d.put s)

variable {d d' : Draft} {s : Setting}

theorem enter_eq_some_iff :
    d.enter s = some d' ↔ d.has s = false ∧ d.put s = d' := by
  unfold enter
  cases d.has s with
  | true => exact ⟨nofun, nofun⟩
  | false => simp

theorem has_put_eq_false_iff {s' : Setting} :
    (d.put s).has s' = false ↔ s'.name ≠ s.name ∧ d.has s' = false := by
  cases s <;> cases s' <;> simp +decide [put, has, Setting.name]

/-- Members can be read one after the other just when none of them has been
read before and none comes twice. -/
theorem foldlM_enter_eq_some_iff {settings : List Setting} :
    settings.foldlM enter d = some d'
      ↔ (settings.map Setting.name).Nodup
          ∧ (∀ s ∈ settings, d.has s = false)
          ∧ settings.foldl put d = d' := by
  induction settings generalizing d with
  | nil =>
    constructor
    · intro h
      cases h
      exact ⟨.nil, nofun, rfl⟩
    · rintro ⟨-, -, rfl⟩
      rfl
  | cons s settings ih =>
    rw [List.foldlM_cons, List.map_cons, List.nodup_cons,
      List.forall_mem_cons, List.foldl_cons]
    constructor
    · intro h
      obtain ⟨d₁, hd₁, h⟩ := Option.bind_eq_some_iff.1 h
      obtain ⟨hfirst, rfl⟩ := enter_eq_some_iff.1 hd₁
      obtain ⟨hnames, hnew, hfold⟩ := ih.1 h
      refine ⟨⟨fun hmem => ?_, hnames⟩, ⟨hfirst, fun s' hs' =>
        (has_put_eq_false_iff.1 (hnew s' hs')).2⟩, hfold⟩
      obtain ⟨s', hs', hname⟩ := List.mem_map.1 hmem
      exact (has_put_eq_false_iff.1 (hnew s' hs')).1 hname
    · rintro ⟨⟨hname, hnames⟩, ⟨hfirst, hnew⟩, hfold⟩
      refine Option.bind_eq_some_iff.2 ⟨d.put s,
        enter_eq_some_iff.2 ⟨hfirst, rfl⟩, ih.2 ⟨hnames, fun s' hs' => ?_,
          hfold⟩⟩
      exact has_put_eq_false_iff.2
        ⟨fun hsame => hname (List.mem_map.2 ⟨s', hs', hsame⟩), hnew s' hs'⟩

/-- A draft finishes as what has been set in turn. -/
theorem finish_foldl_put (d : Draft) (settings : List Setting) :
    (settings.foldl put d).finish = settings.foldl set d.finish := by
  refine (List.foldl_hom finish fun d s => ?_).symm
  cases s <;> rfl

end Draft

-- ================================================================= values

theorem starts_listed {α : Type} {opening closing : Char}
    {Form : Text → α → Prop} (hgap : isGap opening = false)
    (hclose : opening ≠ ']') {t : Text} {xs : List α}
    (h : Listed opening closing Form t xs) : Starts t := by
  obtain ⟨gap, parts, -, -, rfl⟩ := h
  exact ⟨opening, _, rfl, hgap, hclose⟩

/-- No value starts with white space, or as a list ends. -/
theorem Setting.Spelled.starts {t : Text} {s : Setting} (h : s.Spelled t) :
    Starts t := by
  cases s with
  | jsonFields => exact starts_listed (by decide) (by decide) h
  | aliases =>
    obtain ⟨entries, hlisted, -⟩ := h
    exact starts_listed (by decide) (by decide) hlisted
  | blankFailures b =>
    cases h
    cases b with
    | false => exact ⟨'f', _, rfl, rfl, by decide⟩
    | true => exact ⟨'t', _, rfl, rfl, by decide⟩

theorem accepts_readString : Accepts readString Quoted := by
  refine accepts_of_skips (fun t => ?_) (fun _ _ => Quoted.starts)
    fun t s rest hclear => ?_
  · rw [readString, readString, skipGap_skipGap]
  · rw [readString, hclear]
    constructor
    · intro h
      split at h
      · cases h
      · exact string_eq_ok_iff_quoted.1 h
      · cases h
    · rintro ⟨form, hform, rfl⟩
      have hread := hform
      cases hform with
      | intro hbody =>
        exact string_eq_ok_iff_quoted.2 ⟨_, hread, rfl⟩

theorem accepts_readBool :
    Accepts readBool fun t b => Setting.Spelled t (.blankFailures b) := by
  refine accepts_of_skips (fun t => ?_) (fun _ _ => Setting.Spelled.starts)
    fun t b rest hclear => ?_
  · rw [readBool, readBool, skipGap_skipGap]
  · rw [readBool, hclear]
    constructor
    · intro h
      split at h
      · cases h
      · obtain ⟨rfl, rfl⟩ := map_word_eq_ok_iff.1 h
        exact ⟨_, rfl, rfl⟩
      · obtain ⟨rfl, rfl⟩ := map_word_eq_ok_iff.1 h
        exact ⟨_, rfl, rfl⟩
      · cases h
    · rintro ⟨_, rfl, rfl⟩
      cases b with
      | false => exact map_word_eq_ok_iff.2 ⟨rfl, rfl⟩
      | true => exact map_word_eq_ok_iff.2 ⟨rfl, rfl⟩

theorem accepts_readStrings :
    Accepts readStrings fun t names =>
      Setting.Spelled t (.jsonFields names) := by
  refine accepts_of_skips (fun t => ?_) (fun _ _ => Setting.Spelled.starts)
    fun t names rest hclear => ?_
  · rw [readStrings, readStrings, skipGap_skipGap]
  have hitems : ∀ {t}, items readString true t = .ok (names, rest)
      ↔ ∃ form, Listed '[' ']' Quoted form names
          ∧ '[' :: t = form ++ rest := by
    intro t
    rw [listed_iff]
    exact items_eq_ok_iff true accepts_readString fun _ _ => Quoted.starts
  rw [readStrings, hclear]
  constructor
  · intro h
    split at h
    · cases h
    · exact hitems.1 h
    · cases h
  · rintro ⟨form, hform, rfl⟩
    have hread := hform
    obtain ⟨gap, parts, -, -, rfl⟩ := hform
    exact hitems.2 ⟨_, hread, rfl⟩

/-- A table is what entries bind one after the other if it has the last
value for each name. -/
theorem insertAll_eq_iff {entries : List (Text × Text)}
    {table : Table Text} :
    Table.insertAll ∅ entries = table
      ↔ ∀ name, table.find? name = entries.reverse.lookup name := by
  have hfind : ∀ name, (Table.insertAll ∅ entries).find? name
      = entries.reverse.lookup name := by
    intro name
    rw [Table.find?_insertAll, Table.find?_empty, Option.or_none]
  constructor
  · rintro rfl
    exact hfind
  · intro h
    exact Table.ext_find? fun name => (hfind name).trans (h name).symm

theorem accepts_readTable :
    Accepts readTable fun t table => Setting.Spelled t (.aliases table) := by
  refine accepts_of_skips (fun t => ?_) (fun _ _ => Setting.Spelled.starts)
    fun t table rest hclear => ?_
  · rw [readTable, readTable, skipGap_skipGap]
  have hmembers : ∀ {t},
      members (entry Table.insert readString) true ∅ t = .ok (table, rest)
        ↔ ∃ form, Setting.Spelled form (.aliases table)
            ∧ '{' :: t = form ++ rest := by
    intro t
    rw [members_eq_ok_iff true (entry_binds Table.insert accepts_readString)]
    constructor
    · rintro ⟨gap, parts, entries, hgap, hparts, hfold, ht⟩
      rw [List.foldlM_pure] at hfold
      obtain ⟨form, hform, hstart⟩ :=
        listed_iff.2 ⟨gap, parts, hgap, hparts, ht⟩
      exact ⟨form, ⟨entries, hform,
        insertAll_eq_iff.1 (Option.some.inj hfold)⟩, hstart⟩
    · rintro ⟨form, ⟨entries, hform, hfind⟩, hstart⟩
      obtain ⟨gap, parts, hgap, hparts, ht⟩ :=
        listed_iff.1 ⟨form, hform, hstart⟩
      refine ⟨gap, parts, entries, hgap, hparts, ?_, ht⟩
      rw [List.foldlM_pure]
      exact congrArg some (insertAll_eq_iff.2 hfind)
  rw [readTable, hclear]
  constructor
  · intro h
    split at h
    · cases h
    · exact hmembers.1 h
    · cases h
  · rintro ⟨form, hform, rfl⟩
    have hread := hform
    obtain ⟨entries, ⟨gap, parts, -, -, rfl⟩, -⟩ := hform
    exact hmembers.2 ⟨_, hread, rfl⟩

-- ============================================================= containers

section Object

variable {α : Type} {make : α → Setting} {value : Text → Reading α}

/-- The value of a member is taken if the member has not been read
before. -/
theorem once_eq_ok_iff
    (hvalue : Accepts value fun form x => (make x).Spelled form)
    {present : Bool} {bind : Draft → α → Draft} {d d' : Draft}
    (hpresent : ∀ x, d.has (make x) = present)
    (hput : ∀ x, d.put (make x) = bind d x) {key t rest : Text} :
    Draft.once present bind value d key t = .ok (d', rest)
      ↔ ∃ x before after form, Gap before ∧ Gap after
          ∧ (make x).Spelled form ∧ d.enter (make x) = some d'
          ∧ t = before ++ ':' :: (after ++ (form ++ rest)) := by
  have hentry := entry_binds (fun d _ x => bind d x) hvalue
  unfold Draft.once
  constructor
  · intro h
    split at h
    · cases h
    · next hnew =>
      obtain ⟨⟨_, x⟩, before, after, form, rfl, hbefore, hafter, hform,
        hbind, ht⟩ := (hentry ..).1 h
      refine ⟨x, before, after, form, hbefore, hafter, hform,
        Draft.enter_eq_some_iff.2 ⟨?_, ?_⟩, ht⟩
      · rw [hpresent]
        exact Bool.not_eq_true _ ▸ hnew
      · rw [hput]
        exact Option.some.inj hbind
  · rintro ⟨x, before, after, form, hbefore, hafter, hform, henter, ht⟩
    obtain ⟨hnew, rfl⟩ := Draft.enter_eq_some_iff.1 henter
    rw [hpresent] at hnew
    rw [hnew, if_neg Bool.false_ne_true, hput]
    exact (hentry ..).2 ⟨(key, x), before, after, form, rfl, hbefore,
      hafter, hform, rfl, ht⟩

end Object

/-- Each of the members is read into its own place, and no other. -/
theorem member_binds :
    Binds Draft.member Setting.name Setting.Spelled Draft.enter := by
  intro d key t d' rest
  have hfields := @once_eq_ok_iff _ _ _ accepts_readStrings d.jsonFields.isSome
    (fun d x => { d with jsonFields := some x }) d d' (fun _ => rfl)
    (fun _ => rfl) key t rest
  have haliases := @once_eq_ok_iff _ _ _ accepts_readTable d.aliases.isSome
    (fun d x => { d with aliases := some x }) d d' (fun _ => rfl)
    (fun _ => rfl) key t rest
  have hblank := @once_eq_ok_iff _ _ _ accepts_readBool d.blankFailures.isSome
    (fun d x => { d with blankFailures := some x }) d d' (fun _ => rfl)
    (fun _ => rfl) key t rest
  constructor
  · intro h
    unfold Draft.member at h
    split at h
    · next hkey =>
      obtain ⟨x, before, after, form, hmember⟩ := hfields.1 h
      exact ⟨.jsonFields x, before, after, form, hkey.symm, hmember⟩
    · split at h
      · next hkey =>
        obtain ⟨x, before, after, form, hmember⟩ := haliases.1 h
        exact ⟨.aliases x, before, after, form, hkey.symm, hmember⟩
      · split at h
        · next hkey =>
          obtain ⟨x, before, after, form, hmember⟩ := hblank.1 h
          exact ⟨.blankFailures x, before, after, form, hkey.symm, hmember⟩
        · cases h
  · rintro ⟨s, before, after, form, rfl, hmember⟩
    cases s with
    | jsonFields x =>
      dsimp only [Setting.name]
      rw [Draft.member, if_pos rfl]
      exact hfields.2 ⟨x, before, after, form, hmember⟩
    | aliases x =>
      dsimp only [Setting.name]
      rw [Draft.member, if_neg (by decide), if_pos rfl]
      exact haliases.2 ⟨x, before, after, form, hmember⟩
    | blankFailures x =>
      dsimp only [Setting.name]
      rw [Draft.member, if_neg (by decide), if_neg (by decide), if_pos rfl]
      exact hblank.2 ⟨x, before, after, form, hmember⟩

section Array

variable {first : Bool} {names : List Text} {d d' : Draft} {t rest : Text}

/-- What is left of an array holds values of the members with these names,
in their order and as far as they come, and makes the one draft the
other. -/
def Fills (first : Bool) (names : List Text) (d : Draft) (t : Text)
    (d' : Draft) (rest : Text) : Prop :=
  ∃ gap parts settings, Gap gap
    ∧ List.Forall₂ (Spaced Setting.Spelled) parts settings
    ∧ settings.map Setting.name <+: names
    ∧ settings.foldl Draft.put d = d'
    ∧ t = gap ++ (separated first parts ++ ']' :: rest)

/-- Where no more members come, the array has to be over. -/
theorem fills_nil_iff :
    Fills first [] d t d' rest
      ↔ d = d' ∧ ∃ gap, Gap gap ∧ t = gap ++ ']' :: rest := by
  constructor
  · rintro ⟨gap, parts, settings, hgap, hparts, hnames, hfold, ht⟩
    obtain rfl := List.map_eq_nil_iff.1 (List.prefix_nil.1 hnames)
    cases hparts
    rw [separated_nil] at ht
    exact ⟨hfold, gap, hgap, ht⟩
  · rintro ⟨rfl, gap, hgap, ht⟩
    refine ⟨gap, [], [], hgap, .nil, List.prefix_rfl, rfl, ?_⟩
    rw [separated_nil]
    exact ht

theorem endOfArray_eq_ok_iff :
    endOfArray t = .ok rest ↔ ∃ gap, Gap gap ∧ t = gap ++ ']' :: rest := by
  rw [← skipGap_eq_cons_iff (by decide)]
  unfold endOfArray
  constructor
  · intro h
    split at h
    · cases h
    · next hskip =>
      cases h
      exact hskip
    · split at h <;> cases h
    · cases h
  · intro h
    rw [h]
    rfl

/-- Reads the next value of an array and goes on with it, unless the array
is over. -/
def readNext {α : Type} (first : Bool) (value : Text → Reading α)
    (d : Draft) (go : α → Text → Except Fault (Draft × Text)) (t : Text) :
    Except Fault (Draft × Text) := do
  let (more, t) ← nextItem first t
  if !more then return (d, t)
  let (x, t) ← value t
  go x t

/-- Passes the end of an array and gives the draft. -/
def readEnd (d : Draft) (t : Text) : Except Fault (Draft × Text) := do
  let t ← endOfArray t
  return (d, t)

/-- An array is read by its three steps and its end. -/
theorem readArray_eq (t : Text) :
    readArray t
      = readNext true readStrings .empty
          (fun x => readNext false readTable (Draft.empty.put (.jsonFields x))
            fun y => readNext false readBool
              ((Draft.empty.put (.jsonFields x)).put (.aliases y))
              fun z => readEnd
                (((Draft.empty.put (.jsonFields x)).put (.aliases y)).put
                  (.blankFailures z))) t := rfl

theorem readEnd_eq_ok_iff :
    readEnd d t = .ok (d', rest) ↔ Fills false [] d t d' rest := by
  rw [fills_nil_iff, ← endOfArray_eq_ok_iff, readEnd]
  cases endOfArray t with
  | error e => exact ⟨nofun, fun h => nomatch h.2⟩
  | ok behind =>
    constructor
    · intro h
      cases h
      exact ⟨rfl, rfl⟩
    · rintro ⟨rfl, h⟩
      cases h
      rfl

section Step

variable {α : Type} {value : Text → Reading α} {make : α → Setting}
  {name : Text} {go : α → Text → Except Fault (Draft × Text)}

/-- The array is over, or there is a value and it goes on. -/
theorem readNext_cases :
    readNext first value d go t = .ok (d', rest)
      ↔ (nextItem first t = .ok (false, rest) ∧ d = d')
        ∨ ∃ x behind, (∃ start, nextItem first t = .ok (true, start)
              ∧ value start = .ok (x, behind))
            ∧ go x behind = .ok (d', rest) := by
  unfold readNext
  rcases nextItem first t with e | ⟨_ | _, start⟩
  · exact ⟨nofun, by rintro (⟨h, -⟩ | ⟨_, _, ⟨_, h, -⟩, -⟩) <;> cases h⟩
  · constructor
    · intro h
      cases h
      exact .inl ⟨rfl, rfl⟩
    · rintro (⟨h, rfl⟩ | ⟨_, _, ⟨_, h, -⟩, -⟩) <;> cases h
      rfl
  · constructor
    · intro h
      cases hx : value start with
      | error e =>
        change Except.bind (value start) _ = _ at h
        rw [hx] at h
        cases h
      | ok taken =>
        change Except.bind (value start) _ = _ at h
        rw [hx] at h
        exact .inr ⟨_, _, ⟨start, rfl, hx⟩, h⟩
    · rintro (⟨h, -⟩ | ⟨x, behind, ⟨_, h, hx⟩, hgo⟩) <;> cases h
      change Except.bind (value start) _ = _
      rw [hx]
      exact hgo

/-- One more value is that of the first of the members still to come. -/
theorem readNext_eq_ok_iff
    (hvalue : Accepts value fun form x => (make x).Spelled form)
    (hname : ∀ s : Setting, s.name = name ↔ ∃ x, make x = s)
    (hgo : ∀ x t, go x t = .ok (d', rest)
      ↔ Fills false names (d.put (make x)) t d' rest) :
    readNext first value d go t = .ok (d', rest)
      ↔ Fills first (name :: names) d t d' rest := by
  rw [readNext_cases, nextItem_eq_false_iff first]
  simp only [nextItem_item_iff first hvalue fun _ _ => Setting.Spelled.starts,
    hgo]
  constructor
  · rintro (⟨⟨gap, hgap, ht⟩, hsame⟩ | ⟨x, behind, ⟨gap, before, form, hgap,
      hbefore, hform, ht⟩, after, parts, settings, hafter, hparts, hnames,
      hfold, hbehind⟩)
    · refine ⟨gap, [], [], hgap, .nil, List.nil_prefix, hsame, ?_⟩
      rw [separated_nil]
      exact ht
    · refine ⟨gap, (before ++ form ++ after) :: parts, make x :: settings,
        hgap, .cons ⟨before, form, after, hbefore, hform, hafter, rfl⟩
          hparts, ?_, hfold, ?_⟩
      · rw [List.map_cons, (hname _).2 ⟨x, rfl⟩]
        exact (List.prefix_cons_inj name).2 hnames
      · rw [ht, hbehind, separated_cons]
        simp only [List.append_assoc]
  · rintro ⟨gap, parts, settings, hgap, hparts, hnames, hfold, ht⟩
    cases hparts with
    | nil =>
      rw [separated_nil] at ht
      exact .inl ⟨⟨gap, hgap, ht⟩, hfold⟩
    | @cons part s parts settings hpart hparts =>
      obtain ⟨before, form, after, hbefore, hform, hafter, rfl⟩ := hpart
      obtain ⟨hfirst, hlater⟩ := List.cons_prefix_cons.1 hnames
      obtain ⟨x, rfl⟩ := (hname s).1 hfirst
      refine .inr ⟨x, after ++ (separated false parts ++ ']' :: rest),
        ⟨gap, before, form, hgap, hbefore, hform, ?_⟩, after, parts,
        settings, hafter, hparts, hlater, hfold, rfl⟩
      rw [ht, separated_cons]
      simp only [List.append_assoc]

end Step

/-- An array is read if it has the values of the first members, in their
order. -/
theorem readArray_eq_ok_iff :
    readArray t = .ok (d, rest) ↔ Fills true memberNames .empty t d rest := by
  rw [readArray_eq]
  -- from the outside in, one name of `memberNames` a step
  refine @readNext_eq_ok_iff _ _ _ _ _ _ _ _ Setting.jsonFields _ _
    accepts_readStrings (fun s => ?_) fun x t => ?_
  · cases s <;> simp +decide [Setting.name]
  refine @readNext_eq_ok_iff _ _ _ _ _ _ _ _ Setting.aliases _ _
    accepts_readTable (fun s => ?_) fun y t => ?_
  · cases s <;> simp +decide [Setting.name]
  refine @readNext_eq_ok_iff _ _ _ _ _ _ _ _ Setting.blankFailures _ _
    accepts_readBool (fun s => ?_) fun z t => readEnd_eq_ok_iff
  · cases s <;> simp +decide [Setting.name]

end Array

-- ========================================================= configurations

theorem Described.starts {t : Text} {settings : List Setting}
    (h : Described t settings) : Starts t := by
  cases h with
  | object hlisted => exact starts_listed (by decide) (by decide) hlisted
  | array hlisted => exact starts_listed (by decide) (by decide) hlisted

/-- No form has a member twice. -/
theorem Described.nodup {t : Text} {settings : List Setting}
    (h : Described t settings) : (settings.map Setting.name).Nodup := by
  cases h with
  | object _ hnames => exact hnames
  | array _ hnames =>
    have hmembers : memberNames.Nodup := by decide
    exact hmembers.sublist hnames.sublist

/-- Both shapes are taken, and end in the draft that has been told the
settings. -/
theorem accepts_readDraft :
    Accepts readDraft fun t d => ∃ settings, Described t settings
      ∧ settings.foldl Draft.put .empty = d := by
  refine accepts_of_skips (fun t => ?_)
    (fun _ _ ⟨_, hform, _⟩ => hform.starts) fun t d rest hclear => ?_
  · rw [readDraft, readDraft, skipGap_skipGap]
  rw [readDraft, hclear]
  constructor
  · intro h
    split at h
    · cases h
    · obtain ⟨gap, parts, settings, hgap, hparts, hnames, hfold, ht⟩ :=
        readArray_eq_ok_iff.1 h
      obtain ⟨form, hform, hstart⟩ :=
        listed_iff.2 ⟨gap, parts, hgap, hparts, ht⟩
      exact ⟨form, ⟨settings, .array hform hnames, hfold⟩, hstart⟩
    · obtain ⟨gap, parts, settings, hgap, hparts, henter, ht⟩ :=
        (members_eq_ok_iff true member_binds).1 h
      obtain ⟨hnames, -, hfold⟩ := Draft.foldlM_enter_eq_some_iff.1 henter
      obtain ⟨form, hform, hstart⟩ :=
        listed_iff.2 ⟨gap, parts, hgap, hparts, ht⟩
      exact ⟨form, ⟨settings, .object hform hnames, hfold⟩, hstart⟩
    · cases h
  · rintro ⟨form, ⟨settings, hform, hfold⟩, rfl⟩
    have hnew : ∀ s ∈ settings, Draft.empty.has s = false :=
      fun s _ => by cases s <;> rfl
    cases hform with
    | object hlisted hnames =>
      have henter := Draft.foldlM_enter_eq_some_iff.2 ⟨hnames, hnew, hfold⟩
      obtain ⟨gap, parts, hgap, hparts, rfl⟩ := hlisted
      refine (members_eq_ok_iff true member_binds).2
        ⟨gap, parts, settings, hgap, hparts, henter, ?_⟩
      simp [separated]
    | array hlisted hnames =>
      obtain ⟨gap, parts, hgap, hparts, rfl⟩ := hlisted
      refine readArray_eq_ok_iff.2
        ⟨gap, parts, settings, hgap, hparts, hnames, hfold, ?_⟩
      simp [separated]

/-- What is read is what the settings say. -/
theorem read_eq_ok_iff {t : Text} {c : Config} :
    read t = .ok c
      ↔ ∃ settings, Spaced Described t settings ∧ Says settings c := by
  have hdraft := fun {d} => @whole?_eq_ok_iff _ _ _ accepts_readDraft t d
  constructor
  · intro h
    unfold read at h
    cases hread : whole? readDraft t with
    | error e =>
      rw [hread] at h
      cases h
    | ok d =>
      rw [hread] at h
      cases h
      obtain ⟨before, form, after, hbefore, ⟨settings, hform, rfl⟩, hafter,
        ht⟩ := hdraft.1 hread
      refine ⟨settings, ⟨before, form, after, hbefore, hform, hafter, ht⟩, ?_⟩
      rw [Draft.finish_foldl_put]
      exact says_foldl_set hform.nodup
  · rintro ⟨settings, ⟨before, form, after, hbefore, hform, hafter, ht⟩,
      hsays⟩
    have hread := hdraft.2
      ⟨before, form, after, hbefore, ⟨settings, hform, rfl⟩, hafter, ht⟩
    rw [read, hread]
    show Except.ok (Draft.finish _) = _
    rw [Draft.finish_foldl_put]
    exact congrArg _ ((says_foldl_set hform.nodup).unique hsays)

/-- A text is read as a configuration just when it is one of the forms of
some settings, and as the one that they say; and all forms of the same
settings, in whatever order, are read alike. -/
theorem read_language :
    (∀ t c, read t = .ok c
        ↔ ∃ settings, Spaced Described t settings ∧ Says settings c)
      ∧ ∀ t t' settings settings', Spaced Described t settings →
          Spaced Described t' settings' → settings.Perm settings' →
          ∃ c, read t = .ok c ∧ read t' = .ok c := by
  refine ⟨fun t c => read_eq_ok_iff,
    fun t t' settings settings' hform hform' hperm => ?_⟩
  obtain ⟨_, _, _, _, hdescribed, _⟩ := id hform
  have hsays := says_foldl_set hdescribed.nodup
  exact ⟨_, read_eq_ok_iff.2 ⟨settings, hform, hsays⟩,
    read_eq_ok_iff.2 ⟨settings', hform', hsays.of_perm hperm⟩⟩

/-- An object with its members out of order, one name spelled with an
escape and one alias given twice, is read like the array of the values. -/
theorem read_language_array :
    let t := Text.join ["\x7b\"aliases\":\x7b\"a\":\"x\",\"a\":\"y\"\x7d, ",
      "\"\\u006Ason_fields\":[\"f\"]\x7d\n"]
    let t' : Text := "[[\"f\"],\x7b\"a\":\"y\"\x7d]"
    let settings := [Setting.aliases (Table.insert ∅ "a" "y"),
      Setting.jsonFields ["f"]]
    Spaced Described t settings ∧ Spaced Described t' settings.reverse
      ∧ settings.Perm settings.reverse
      ∧ ∃ c, read t = .ok c ∧ read t' = .ok c := by
  intro t t' settings
  have hentry : ∀ path : Text, Body path path →
      Member Prod.fst (fun form entry => Quoted form entry.2)
        ("\"a\":" ++ ('"' :: (path ++ ['"']))) (("a", path) : Text × Text) :=
    fun path hpath => ⟨"\"a\"", [], [], _,
      .intro (body_self "a" (by decide)), gap_nil, gap_nil, .intro hpath, rfl⟩
  have hx := hentry "x" (body_self "x" (by decide))
  have hy := hentry "y" (body_self "y" (by decide))
  have hfields : Setting.Spelled "[\"f\"]" (.jsonFields ["f"]) :=
    ⟨[], ["\"f\""], gap_nil,
      .cons (.tight (.intro (body_self "f" (by decide)))) .nil, rfl⟩
  have hescape : Escape "u006A" 'j' := .unit
    (@HexUnit.intro '0' '0' '6' 'A' 0 0 6 10 ⟨by decide, .inl rfl⟩
      ⟨by decide, .inl rfl⟩ ⟨by decide, .inl rfl⟩ ⟨by decide, .inr rfl⟩)
  have hname : Quoted "\"\\u006Ason_fields\"" jsonFieldsName :=
    .intro (.escape hescape (body_self "son_fields" (by decide)))
  have htwice : Setting.Spelled "\x7b\"a\":\"x\",\"a\":\"y\"\x7d"
      (.aliases (Table.insert ∅ "a" "y")) :=
    ⟨_, ⟨[], _, gap_nil, .cons (.tight hx) (.cons (.tight hy) .nil), rfl⟩,
      insertAll_eq_iff.1 (by decide)⟩
  have honce : Setting.Spelled "\x7b\"a\":\"y\"\x7d"
      (.aliases (Table.insert ∅ "a" "y")) :=
    ⟨_, ⟨[], _, gap_nil, .cons (.tight hy) .nil, rfl⟩,
      insertAll_eq_iff.1 (by decide)⟩
  have hobject : Spaced Described t settings :=
    ⟨[], _, ['\n'], gap_nil, .object ⟨[], _, gap_nil,
      .cons (.tight ⟨"\"aliases\"", [], [], _,
        .intro (body_self "aliases" (by decide)), gap_nil, gap_nil, htwice,
        rfl⟩)
      (.cons ⟨[' '], _, [], by simp [Gap], ⟨_, [], [], _, hname, gap_nil,
        gap_nil, hfields, rfl⟩, gap_nil, rfl⟩ .nil), rfl⟩ (by decide),
      by simp [Gap], by decide⟩
  have harray : Spaced Described t' settings.reverse :=
    .tight (.array ⟨[], _, gap_nil, .cons (.tight hfields)
      (.cons (.tight honce) .nil), rfl⟩ ⟨[blankFailuresName], rfl⟩)
  have hperm := settings.reverse_perm.symm
  exact ⟨hobject, harray, hperm,
    read_language.2 t t' settings settings.reverse hobject harray hperm⟩

end Stencil.Config
