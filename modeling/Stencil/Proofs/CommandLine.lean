/-
What a command line says.

A command line says one thing after the other (`Item`): operands, values
for options, and switches. How it can be written is told by `Written`: a
value stands in one argument with the name of its option, behind `=`, or
in the next argument, if that does not look like an option; and behind
`--` there are only operands. A command line is understood if it is
written so and if the things it says can be taken in one after the other
(`Draft.takeAll?`). How they are written does not matter then.

# The argument

The value of an option is looked at only when the next thing is met, so a
state stands for the draft that it settles to; with an option whose value
has not come there is none. What is left of a state at the end of a line
(`outcome?`) is, for a written line, its draft with all items taken in, by
induction on the way it is written. Conversely a line that leaves anything
is written in some way: every argument that can be taken in continues one
(`step_cases`).

Main statements: `exists_written` and `parse_eq_ok_iff_of_written`.
-/
import Stencil.Command.Arguments
import Stencil.Table

namespace Stencil.Command

-- ================================================ statement vocabulary

/-- Something that is said on a command line. -/
inductive Item where
  | operand (text : Text)
  | value (option : Valued) (text : Text)
  | switch (option : Switch)
deriving DecidableEq

/-- The argument does not look like an option. -/
def Loose (argument : Text) : Prop :=
  ∀ c rest, argument ≠ '-' :: c :: rest

/-- An argument says something by itself. -/
inductive Spells : Text → Item → Prop where
  | operand {argument : Text} :
      Loose argument → Spells argument (.operand argument)
  | value {name : Text} {option : Valued} (text : Text) :
      options.lookup name = some (.valued option) →
      Spells ('-' :: '-' :: (name ++ '=' :: text)) (.value option text)
  | switch {name : Text} {option : Switch} :
      options.lookup name = some (.switch option) →
      Spells ('-' :: '-' :: name) (.switch option)

/-- Arguments say things one after the other. -/
inductive Written : List Text → List Item → Prop where
  | nil : Written [] []
  | operands (texts : List Text) :
      Written (['-', '-'] :: texts) (texts.map .operand)
  | alone {argument : Text} {item : Item} {arguments : List Text}
      {items : List Item} :
      Spells argument item → Written arguments items →
      Written (argument :: arguments) (item :: items)
  | apart {name text : Text} {option : Valued} {arguments : List Text}
      {items : List Item} :
      options.lookup name = some (.valued option) → Loose text →
      Written arguments items →
      Written (('-' :: '-' :: name) :: text :: arguments)
        (.value option text :: items)

namespace Draft

/-- Takes in something that is said. -/
def take (d : Draft) : Item → Except Misuse Draft
  | .operand text =>
    if d.operands.length < 2 then
      .ok { d with operands := d.operands ++ [text] }
    else .error (.unexpectedArgument text)
  | .value option text => d.give option text
  | .switch option => d.turnOn option

/-- Everything that can be taken in, with what is understood then. -/
inductive Takes (d : Draft) : Item → Draft → Prop where
  | operand {text : Text} :
      d.operands.length < 2 →
      Takes d (.operand text) { d with operands := d.operands ++ [text] }
  | jsonField (name : Text) :
      Takes d (.value .jsonField name)
        { d with jsonFields := d.jsonFields ++ [name] }
  | aliasPath {text : Text} {pair : Text × Text} :
      pair? text = some pair →
      Takes d (.value .aliasPath text)
        { d with aliases := d.aliases ++ [pair] }
  | scriptText {text : Text} {pair : Text × Text} :
      pair? text = some pair →
      Takes d (.value .scriptText text)
        { d with scripts := d.scripts ++ [pair] }
  | config {path : Text} :
      d.config = none → path ≠ [] →
      Takes d (.value .config path) { d with config := some path }
  | validate :
      d.validate = false →
      Takes d (.switch .validate) { d with validate := true }
  | keepUnresolved :
      d.keepUnresolved = false →
      Takes d (.switch .keepUnresolved) { d with keepUnresolved := true }

/-- What is understood when all has been taken in. -/
def takeAll? (d : Draft) : List Item → Option Draft
  | [] => some d
  | item :: more => (d.take item).toOption.bind (·.takeAll? more)

end Draft

namespace State

/-- The mark of operands has not been met, and no value is wanted. -/
structure Free (s : State) : Prop where
  unmarked : s.operandsOnly = false
  unwanting : ∀ option, s.pending ≠ .awaiting option

theorem free_start : start.Free := ⟨rfl, fun option h => by cases h⟩

/-- Everything that can be taken in where options can stand, with the
state behind it. -/
inductive Advances (s : State) : Text → State → Prop where
  | marked : Advances s ['-', '-'] { s with operandsOnly := true }
  | said {argument : Text} {item : Item} {d d' : Draft} :
      Spells argument item → s.settle = .ok d → d.Takes item d' →
      Advances s argument ⟨d', .none, false⟩
  | opened {name : Text} {option : Valued} {d : Draft} :
      options.lookup name = some (.valued option) → s.settle = .ok d →
      Advances s ('-' :: '-' :: name) ⟨d, .awaiting option, false⟩
  | filled {argument : Text} {option : Valued} :
      s.pending = .awaiting option → Loose argument →
      Advances s argument { s with pending := .given option argument }

/-- What is understood at the end of the arguments. -/
def outcome? (s : State) (arguments : List Text) : Option Draft :=
  match s.steps arguments with
  | .ok s => s.settle.toOption
  | .error _ => none

end State

-- ============================================================ the options

/-- No option has an empty name, or `=` in it. -/
theorem name_of_lookup {name : Text} {named : Named}
    (h : options.lookup name = some named) : name ≠ [] ∧ '=' ∉ name := by
  have hnames : (options.map Prod.fst).Nodup := by decide +kernel
  have hall : ∀ entry ∈ options, entry.1 ≠ [] ∧ '=' ∉ entry.1 := by
    decide +kernel
  exact hall _ ((lookup_eq_some_iff_mem hnames).1 h)

theorem uncut_of_not_mem {t : Text} (h : '=' ∉ t) :
    ∀ c ∈ t, decide (c ≠ '=') = true := by
  intro c hc
  rw [decide_eq_true_iff]
  rintro rfl
  exact h hc

/-- In front of the first `=` there is none. -/
theorem takeWhile_cut {front : Text} (text : Text) (h : '=' ∉ front) :
    (front ++ '=' :: text).takeWhile (· ≠ '=') = front := by
  rw [List.takeWhile_append_of_pos (uncut_of_not_mem h)]
  exact List.append_nil front

theorem dropWhile_cut {front : Text} (text : Text) (h : '=' ∉ front) :
    (front ++ '=' :: text).dropWhile (· ≠ '=') = '=' :: text := by
  rw [List.dropWhile_append_of_pos (uncut_of_not_mem h)]
  rfl

/-- A text without `=` is not cut. -/
theorem dropWhile_uncut {t : Text} (h : '=' ∉ t) :
    t.dropWhile (· ≠ '=') = [] := by
  rw [← List.append_nil t,
    List.dropWhile_append_of_pos (uncut_of_not_mem h)]
  rfl

-- ============================================================== one item

theorem toOption_eq_some_iff {ε α : Type} {x : Except ε α} {a : α} :
    x.toOption = some a ↔ x = .ok a := by
  cases x with
  | error e =>
    constructor
    · intro h
      cases h
    · intro h
      cases h
  | ok b =>
    constructor
    · intro h
      cases h
      rfl
    · intro h
      cases h
      rfl

namespace Draft

variable {d d' : Draft} {item : Item} {items : List Item}

theorem takes_of_give {option : Valued} {value : Text}
    (h : d.give option value = .ok d') :
    d.Takes (.value option value) d' := by
  unfold give at h
  cases option with
  | jsonField =>
    cases h
    exact .jsonField value
  | aliasPath =>
    rcases hpair : pair? value with - | pair
    · rw [hpair] at h
      cases h
    · rw [hpair] at h
      cases h
      exact .aliasPath hpair
  | scriptText =>
    rcases hpair : pair? value with - | pair
    · rw [hpair] at h
      cases h
    · rw [hpair] at h
      cases h
      exact .scriptText hpair
  | config =>
    by_cases hconfig : d.config.isSome = true
    · rw [if_pos hconfig] at h
      cases h
    · by_cases hvalue : value = []
      · rw [if_neg hconfig, if_pos hvalue] at h
        cases h
      · rw [if_neg hconfig, if_neg hvalue] at h
        cases h
        exact .config (by simpa using hconfig) hvalue

theorem takes_of_turnOn {option : Switch} (h : d.turnOn option = .ok d') :
    d.Takes (.switch option) d' := by
  unfold turnOn at h
  cases option with
  | validate =>
    by_cases hon : d.validate = true
    · rw [if_pos hon] at h
      cases h
    · rw [if_neg hon] at h
      cases h
      exact .validate (by simpa using hon)
  | keepUnresolved =>
    by_cases hon : d.keepUnresolved = true
    · rw [if_pos hon] at h
      cases h
    · rw [if_neg hon] at h
      cases h
      exact .keepUnresolved (by simpa using hon)

theorem Takes.take_eq (h : d.Takes item d') : d.take item = .ok d' := by
  cases h with
  | operand hlength => exact if_pos hlength
  | jsonField => rfl
  | aliasPath hpair =>
    rw [take, give]
    simp only [hpair]
  | scriptText hpair =>
    rw [take, give]
    simp only [hpair]
  | config hnone hpath =>
    rw [take, give, hnone, if_neg (by simp), if_neg hpath]
  | validate hoff =>
    rw [take, turnOn, hoff]
    rfl
  | keepUnresolved hoff =>
    rw [take, turnOn, hoff]
    rfl

theorem take_eq_ok_iff : d.take item = .ok d' ↔ d.Takes item d' := by
  constructor
  · intro h
    cases item with
    | operand text =>
      by_cases hlength : d.operands.length < 2
      · rw [take, if_pos hlength] at h
        cases h
        exact .operand hlength
      · rw [take, if_neg hlength] at h
        cases h
    | value option text => exact takes_of_give h
    | switch option => exact takes_of_turnOn h
  · intro h
    exact h.take_eq

/-- Items are taken in one after the other. -/
theorem takeAll?_cons_eq_some_iff :
    d.takeAll? (item :: items) = some d'
      ↔ ∃ d₁, d.Takes item d₁ ∧ d₁.takeAll? items = some d' := by
  rw [takeAll?, Option.bind_eq_some_iff]
  simp only [toOption_eq_some_iff, take_eq_ok_iff]

end Draft

-- ============================================================= one argument

namespace State

variable {s s' : State} {argument : Text} {item : Item}

/-- An argument that names an option is one. -/
theorem step_name {name : Text} {named : Named}
    (hname : options.lookup name = some named)
    (h : s.operandsOnly = false) :
    s.step ('-' :: '-' :: name) = s.named name none := by
  obtain ⟨hne, hcut⟩ := name_of_lookup hname
  obtain ⟨c, rest, rfl⟩ := List.exists_cons_of_ne_nil hne
  unfold step
  rw [h, if_neg Bool.false_ne_true]
  split
  · next heq => cases heq
  · next heq =>
    cases heq
    rw [dropWhile_uncut hcut]
  · next hdashes heq =>
    cases heq
    exact (hdashes rfl).elim
  · next hdashes => exact (hdashes _ _ rfl).elim

/-- So is one that names an option and has a value behind `=`. -/
theorem step_value {name : Text} {named : Named} (text : Text)
    (hname : options.lookup name = some named)
    (h : s.operandsOnly = false) :
    s.step ('-' :: '-' :: (name ++ '=' :: text))
      = s.named name (some text) := by
  obtain ⟨hne, hcut⟩ := name_of_lookup hname
  obtain ⟨c, rest, rfl⟩ := List.exists_cons_of_ne_nil hne
  unfold step
  rw [h, if_neg Bool.false_ne_true]
  split
  · next heq => cases heq
  · next heq =>
    cases heq
    rw [dropWhile_cut text hcut, takeWhile_cut text hcut]
  · next hdashes heq =>
    cases heq
    exact (hdashes rfl).elim
  · next hdashes => exact (hdashes _ _ rfl).elim

/-- An argument that does not look like an option is a value if one is
wanted, and else an operand. -/
theorem step_loose (hloose : Loose argument) (h : s.operandsOnly = false) :
    s.step argument
      = match s.pending with
        | .awaiting option =>
          .ok { s with pending := .given option argument }
        | _ => s.operand argument := by
  unfold step
  rw [h, if_neg Bool.false_ne_true]
  split
  · exact absurd rfl (hloose '-' [])
  · exact absurd rfl (hloose '-' _)
  · exact absurd rfl (hloose _ _)
  · rfl

-- ================================================= one thing taken in

theorem outcome?_cons (s : State) (argument : Text)
    (arguments : List Text) :
    s.outcome? (argument :: arguments)
      = (s.step argument).toOption.bind (·.outcome? arguments) := by
  unfold outcome?
  rw [steps]
  cases s.step argument with
  | error stop => rfl
  | ok s' => rfl

theorem settled_toOption (s : State) (take : Draft → Except Misuse Draft) :
    (s.settled take).toOption
      = s.settle.toOption.bind fun d =>
          (take d).toOption.map fun d' => ⟨d', .none, s.operandsOnly⟩ := by
  unfold settled
  cases s.settle with
  | error misuse => rfl
  | ok d =>
    have hbind : (Except.ok d).bind take = take d := rfl
    have hsome : (Except.ok d : Except Misuse Draft).toOption = some d := rfl
    rw [hbind, hsome, Option.bind_some]
    cases take d with
    | error misuse => rfl
    | ok d' => rfl

/-- Looking at a value leaves the operands as they are. -/
theorem operands_of_settle {d : Draft} (h : s.settle = .ok d) :
    d.operands = s.draft.operands := by
  unfold settle at h
  cases hp : s.pending with
  | none =>
    rw [hp] at h
    cases h
    rfl
  | awaiting option =>
    rw [hp] at h
    cases h
  | given option value =>
    rw [hp] at h
    cases Draft.takes_of_give h with
    | jsonField | aliasPath | scriptText | config => rfl

/-- An operand is taken in as everything is; that there are enough can be
seen before. -/
theorem operand_toOption (s : State) (text : Text) :
    (s.operand text).toOption
      = (s.settled (·.take (.operand text))).toOption := by
  unfold operand
  rw [settled_toOption]
  by_cases hlength : s.draft.operands.length < 2
  · rw [if_pos hlength, settled_toOption]
    cases hsettle : s.settle with
    | error misuse => rfl
    | ok d =>
      rw [← operands_of_settle hsettle] at hlength
      have htake : d.take (.operand text)
          = .ok { d with operands := d.operands ++ [text] } := if_pos hlength
      show _ = (d.take (.operand text)).toOption.map _
      rw [htake]
      rfl
  · rw [if_neg hlength]
    cases hsettle : s.settle with
    | error misuse => rfl
    | ok d =>
      rw [← operands_of_settle hsettle] at hlength
      have htake : d.take (.operand text)
          = .error (.unexpectedArgument text) := if_neg hlength
      show _ = (d.take (.operand text)).toOption.map _
      rw [htake]
      rfl

/-- What is taken in behind the option before is taken in by the draft. -/
theorem outcome?_of_step (arguments : List Text)
    (h : (s.step argument).toOption
      = (s.settled (·.take item)).toOption) :
    s.outcome? (argument :: arguments)
      = s.settle.toOption.bind fun d => (d.take item).toOption.bind fun d' =>
          outcome? ⟨d', .none, s.operandsOnly⟩ arguments := by
  rw [outcome?_cons, h, settled_toOption, Option.bind_assoc]
  congr 1
  funext d
  rw [Option.bind_map]
  rfl

/-- Behind the mark there are operands only. -/
theorem outcome?_operands (h : s.operandsOnly = true) (texts : List Text) :
    s.outcome? texts
      = s.settle.toOption.bind (·.takeAll? (texts.map .operand)) := by
  induction texts generalizing s with
  | nil => exact (Option.bind_fun_some _).symm
  | cons text more ih =>
    have hstep : (s.step text).toOption
        = (s.settled (·.take (.operand text))).toOption := by
      unfold step
      rw [if_pos h]
      exact s.operand_toOption text
    rw [outcome?_of_step more hstep]
    congr 1
    funext d
    show _ = (d.take (.operand text)).toOption.bind
      (·.takeAll? (more.map .operand))
    congr 1
    funext d'
    exact ih h

/-- An argument that says something by itself has it taken in, if no value
is wanted. -/
theorem step_of_spells (hspells : Spells argument item) (h : s.Free) :
    (s.step argument).toOption = (s.settled (·.take item)).toOption := by
  cases hspells with
  | operand hloose =>
    rw [step_loose hloose h.unmarked, ← operand_toOption]
    cases hpending : s.pending with
    | awaiting option => exact absurd hpending (h.unwanting option)
    | none => rfl
    | given => rfl
  | value text hname =>
    rw [step_value text hname h.unmarked]
    unfold named
    rw [hname]
    rfl
  | switch hname =>
    rw [step_name hname h.unmarked]
    unfold named
    rw [hname]
    rfl

/-- An option whose value does not stand behind `=` wants one. -/
theorem step_valued {name : Text} {option : Valued}
    (hname : options.lookup name = some (.valued option))
    (h : s.operandsOnly = false) :
    (s.step ('-' :: '-' :: name)).toOption
      = s.settle.toOption.map fun d => ⟨d, .awaiting option, false⟩ := by
  rw [step_name hname h]
  unfold named settled
  rw [hname, h]
  cases s.settle with
  | error misuse => rfl
  | ok d => rfl

theorem step_mark (h : s.operandsOnly = false) :
    s.step ['-', '-'] = .ok { s with operandsOnly := true } := by
  unfold step
  rw [h, if_neg Bool.false_ne_true]
  rfl

-- ======================================================== a whole line

/-- At the end of a written line all that it says has been taken in. -/
theorem outcome?_of_written {arguments : List Text} {items : List Item}
    (hwritten : Written arguments items) (h : s.Free) :
    s.outcome? arguments = s.settle.toOption.bind (·.takeAll? items) := by
  induction hwritten generalizing s with
  | nil => exact (Option.bind_fun_some _).symm
  | operands texts =>
    rw [outcome?_cons, step_mark h.unmarked]
    exact outcome?_operands rfl texts
  | alone hspells _ ih =>
    rw [outcome?_of_step _ (step_of_spells hspells h)]
    congr 1
    funext d
    rw [Draft.takeAll?]
    congr 1
    funext d'
    exact ih ⟨h.unmarked, fun option hp => by cases hp⟩
  | @apart name text option arguments items hname hloose _ ih =>
    rw [outcome?_cons, step_valued hname h.unmarked, Option.bind_map]
    congr 1
    funext d
    -- the value waits in the state, and is looked at by what follows
    show outcome? ⟨d, .awaiting option, false⟩ (text :: arguments) = _
    rw [outcome?_cons, step_loose hloose rfl]
    exact ih ⟨rfl, fun option hp => by cases hp⟩

-- =================================================== what can be taken in

theorem settle_of_awaiting {option : Valued}
    (h : s.pending = .awaiting option) :
    s.settle = .error (.missingValue option.label) := by
  rw [settle, h]

theorem exists_settle_of_settled {take : Draft → Except Misuse Draft}
    (h : s.settled take = .ok s') :
    ∃ d d', s.settle = .ok d ∧ take d = .ok d'
      ∧ s' = ⟨d', .none, s.operandsOnly⟩ := by
  have hsome : (s.settled take).toOption = some s' := by
    rw [h]
    rfl
  rw [settled_toOption, Option.bind_eq_some_iff] at hsome
  obtain ⟨d, hsettle, hmap⟩ := hsome
  obtain ⟨d', htake, hstate⟩ := Option.map_eq_some_iff.1 hmap
  exact ⟨d, d', toOption_eq_some_iff.1 hsettle,
    toOption_eq_some_iff.1 htake, hstate.symm⟩

theorem tell_ne_ok (s : State) (notice : Notice) :
    s.tell notice ≠ .ok s' := by
  unfold tell
  cases s.settle with
  | error misuse => exact fun h => by cases h
  | ok d => exact fun h => by cases h

/-- A name with a value behind `=` is that of an option that takes one. -/
theorem advances_of_value {name text : Text} (hmark : s.operandsOnly = false)
    (h : s.named name (some text) = .ok s') :
    s.Advances ('-' :: '-' :: (name ++ '=' :: text)) s' := by
  unfold named at h
  cases hname : options.lookup name with
  | none =>
    rw [hname] at h
    cases h
  | some known =>
    rw [hname] at h
    cases known with
    | switch | notice => cases h
    | valued option =>
      obtain ⟨d, d', hsettle, htake, rfl⟩ := exists_settle_of_settled h
      rw [hmark]
      exact .said (.value text hname) hsettle (Draft.takes_of_give htake)

/-- A name without one is that of an option that wants one, or of a
switch. -/
theorem advances_of_name {name : Text} (hmark : s.operandsOnly = false)
    (h : s.named name none = .ok s') :
    s.Advances ('-' :: '-' :: name) s' := by
  unfold named at h
  cases hname : options.lookup name with
  | none =>
    rw [hname] at h
    cases h
  | some known =>
    rw [hname] at h
    cases known with
    | notice notice => exact absurd h (tell_ne_ok s notice)
    | switch option =>
      obtain ⟨d, d', hsettle, htake, rfl⟩ := exists_settle_of_settled h
      rw [hmark]
      exact .said (.switch hname) hsettle (Draft.takes_of_turnOn htake)
    | valued option =>
      cases hsettled : s.settled .ok with
      | error stop =>
        simp only [hsettled] at h
        cases h
      | ok s₁ =>
        simp only [hsettled] at h
        cases h
        obtain ⟨d, d', hsettle, htake, rfl⟩ :=
          exists_settle_of_settled hsettled
        cases htake
        rw [hmark]
        exact .opened hname hsettle

/-- Nothing else can be taken in where options can stand. -/
theorem advances_of_step (hmark : s.operandsOnly = false)
    (h : s.step argument = .ok s') : s.Advances argument s' := by
  unfold step at h
  rw [if_neg (by simp [hmark])] at h
  split at h
  · cases h
    exact .marked
  · next rest hrest =>
    by_cases hcut : '=' ∈ rest
    · obtain ⟨front, text, rfl, hfront⟩ := List.eq_append_cons_of_mem hcut
      rw [dropWhile_cut text hfront, takeWhile_cut text hfront] at h
      exact advances_of_value hmark h
    · rw [dropWhile_uncut hcut] at h
      exact advances_of_name hmark h
  · unfold letter at h
    split at h
    · exact absurd h (tell_ne_ok s _)
    · split at h
      · exact absurd h (tell_ne_ok s _)
      · cases h
  · next hletter =>
    have hloose : Loose argument := hletter
    split at h
    · next option hpending =>
      cases h
      exact .filled hpending hloose
    · unfold operand at h
      by_cases hlength : s.draft.operands.length < 2
      · rw [if_pos hlength] at h
        obtain ⟨d, d', hsettle, htake, rfl⟩ := exists_settle_of_settled h
        cases htake
        rw [← operands_of_settle hsettle] at hlength
        rw [hmark]
        exact .said (.operand hloose) hsettle (.operand hlength)
      · rw [if_neg hlength] at h
        cases h

/-- A line that leaves anything is written in some way; if a value is
wanted, its first argument is that value. -/
theorem exists_written_of_outcome? {arguments : List Text} {d : Draft}
    (h : s.outcome? arguments = some d) (hmark : s.operandsOnly = false) :
    (s.Free → ∃ items, Written arguments items)
      ∧ ∀ option, s.pending = .awaiting option →
          ∃ text rest items, arguments = text :: rest ∧ Loose text
            ∧ Written rest items := by
  induction arguments generalizing s with
  | nil =>
    refine ⟨fun _ => ⟨[], .nil⟩, fun option hpending => ?_⟩
    have hsettle : s.settle.toOption = some d := h
    rw [settle_of_awaiting hpending] at hsettle
    cases hsettle
  | cons argument more ih =>
    rw [outcome?_cons] at h
    cases hstep : s.step argument with
    | error stop =>
      rw [hstep] at h
      cases h
    | ok s' =>
      rw [hstep] at h
      have hmore : s'.outcome? more = some d := h
      cases advances_of_step hmark hstep with
      | marked =>
        refine ⟨fun _ => ⟨_, .operands more⟩, fun option hpending => ?_⟩
        rw [outcome?_operands rfl] at hmore
        have hsettle := settle_of_awaiting
          (s := { s with operandsOnly := true }) hpending
        rw [hsettle] at hmore
        cases hmore
      | said hspells hsettle _ =>
        refine ⟨fun _ => ?_, fun option hpending => ?_⟩
        · obtain ⟨items, hitems⟩ :=
            (ih hmore rfl).1 ⟨rfl, fun option hp => by cases hp⟩
          exact ⟨_, .alone hspells hitems⟩
        · rw [settle_of_awaiting hpending] at hsettle
          cases hsettle
      | opened hname hsettle =>
        refine ⟨fun _ => ?_, fun option hpending => ?_⟩
        · obtain ⟨text, rest, items, rfl, hloose, hitems⟩ :=
            (ih hmore rfl).2 _ rfl
          exact ⟨_, .apart hname hloose hitems⟩
        · rw [settle_of_awaiting hpending] at hsettle
          cases hsettle
      | filled hwanted hloose =>
        refine ⟨fun hfree => absurd hwanted (hfree.unwanting _),
          fun option _ => ?_⟩
        obtain ⟨items, hitems⟩ :=
          (ih hmore hmark).1 ⟨hmark, fun option hp => by cases hp⟩
        exact ⟨argument, more, items, rfl, hloose, hitems⟩

end State

-- ========================================================= command lines

variable {arguments : List Text} {args : Arguments}

/-- What is understood of a command line is what is left at its end, if
all operands are there. -/
theorem parse_toOption (arguments : List Text) :
    (parse arguments).toOption
      = (State.start.outcome? arguments).bind (·.finish.toOption) := by
  unfold parse State.outcome?
  rcases State.start.steps arguments with stop | s
  · rfl
  · show ((s.settle.bind Draft.finish).mapError Stop.misuse).toOption
      = s.settle.toOption.bind _
    rcases s.settle with misuse | d
    · rfl
    · show (d.finish.mapError Stop.misuse).toOption = d.finish.toOption
      rcases d.finish with misuse | args
      · rfl
      · rfl

/-- A command line that is understood is written in some way. -/
theorem exists_written (h : parse arguments = .ok args) :
    ∃ items, Written arguments items := by
  have hsome := parse_toOption arguments
  rw [h] at hsome
  obtain ⟨d, houtcome, -⟩ := Option.bind_eq_some_iff.1 hsome.symm
  exact (State.exists_written_of_outcome? houtcome rfl).1 State.free_start

/-- A written command line is understood if what it says can be taken in,
and as that. -/
theorem parse_eq_ok_iff_of_written {items : List Item}
    (h : Written arguments items) :
    parse arguments = .ok args
      ↔ ∃ d, Draft.empty.takeAll? items = some d
          ∧ d.finish = .ok args := by
  rw [← toOption_eq_some_iff, parse_toOption,
    State.outcome?_of_written h State.free_start, Option.bind_eq_some_iff]
  simp only [toOption_eq_some_iff]
  rfl

end Stencil.Command
