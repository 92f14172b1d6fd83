/-
Where a path arrives, and at which step it stops.

What a path comes to is said without the walk: the path leads to a value,
or it goes through up to a step that does not (`Stops`). `Outcome` is the
answer in each case. A value is the answer unless it is `null`; a step
that does not go through is blamed for what its value is (`Refuses`),
unless the step before it has landed on a string that should hold JSON and
does not (`Lands`). Then the field of that string is blamed.

# The argument

Behind a path that leads somewhere, the walk goes on from there
(`exists_pending_of_leads`). All that it remembers of the path is the field
that the last step has landed on, if that should hold JSON and does not,
so the answer is read off the next step. The same lemma cuts a path in
two: the second walk starts where the first one has arrived, and forgets
that field. That shows when the path goes on, and nowhere else.

Main statements: `resolve_eq_iff`, `resolve_append`.
-/
import Mathlib.Data.List.Induction
import Stencil.Proofs.Route

namespace Stencil.Path

open Json

-- ================================================ statement vocabulary

/-- Why a value has no part for a step to go to. -/
inductive Refuses : Json → Step → Reason → Prop where
  | missing {members : List (Text × Json)} {name : Text} :
      members.lookup name = none →
      Refuses (.object members) (.field name) (.missingField name)
  | notObject {v : Json} {name : Text} :
      (∀ members, v ≠ .object members) →
      Refuses v (.field name) (.notAnObject name)
  | outOfRange {items : List Json} {i : Int} :
      i < 0 ∨ items.length ≤ i →
      Refuses (.array items) (.index i) (.indexOutOfRange i items.length)
  | notArray {v : Json} {i : Int} :
      (∀ items, v ≠ .array items) →
      Refuses v (.index i) (.notIndexable i)

/-- The path goes through `before`, to a value from which its next step
does not go on. -/
structure Stops (jsonFields : List Text) (root : Json)
    (path before : Path) (v : Json) (step : Step) : Prop where
  split : ∃ after, path = before ++ step :: after
  leads : Leads jsonFields root before v
  refused : ∀ w, ¬ Goes jsonFields v step w

/-- The last step of the path lands on a field that should hold JSON,
where there is a string that cannot be decoded. -/
def Lands (jsonFields : List Text) (root : Json) (path : Path)
    (field : Text) (e : ReadError) : Prop :=
  ∃ before parent, path = before ++ [.field field]
    ∧ Leads jsonFields root before parent
    ∧ Undecodable jsonFields parent field e

/-- What a path comes to. -/
inductive Outcome (jsonFields : List Text) (root : Json) (path : Path) :
    Except Reason Json → Prop where
  | value {v : Json} :
      Leads jsonFields root path v → v ≠ .null →
      Outcome jsonFields root path (.ok v)
  | null :
      Leads jsonFields root path .null →
      Outcome jsonFields root path (.error .nullValue)
  | undecoded {before : Path} {v : Json} {step : Step} {field : Text}
      {e : ReadError} :
      Stops jsonFields root path before v step →
      Lands jsonFields root before field e →
      Outcome jsonFields root path (.error (.invalidJson field e))
  | refused {before : Path} {v : Json} {step : Step} {reason : Reason} :
      Stops jsonFields root path before v step →
      (∀ field e, ¬ Lands jsonFields root before field e) →
      Refuses v step reason →
      Outcome jsonFields root path (.error reason)

-- ============================================================ one step

variable {jsonFields : List Text} {root u v w w' : Json} {step : Step}
variable {path before p q : Path} {field : Text} {e : ReadError}
variable {reason : Reason}

theorem isNull_iff : v.isNull = true ↔ v = .null := by
  cases v <;> simp [isNull]

/-- A value refuses what selecting from it refuses, for the same
reason. -/
theorem refuses_iff :
    Refuses v step reason ↔ select v step = .error reason := by
  constructor
  · intro h
    cases h with
    | missing hlookup => simp only [select, hlookup]
    | notObject hv =>
      cases v with
      | object members => exact absurd rfl (hv members)
      | null | bool b | int i | float x | string s | array items => rfl
    | @outOfRange items i hi =>
      cases i with
      | negSucc n => rfl
      | ofNat n =>
        have hle : items.length ≤ n := by
          rcases hi with hi | hi
          · exact absurd hi (Int.not_lt.2 (Int.natCast_nonneg n))
          · exact Int.ofNat_le.1 hi
        simp only [select, List.getElem?_eq_none hle]
    | notArray hv =>
      cases v with
      | array items => exact absurd rfl (hv items)
      | null | bool b | int i | float x | string s | object members => rfl
  · intro h
    cases step with
    | field name =>
      cases v with
      | object members =>
        cases hlookup : members.lookup name with
        | none =>
          simp only [select, hlookup] at h
          cases h
          exact .missing hlookup
        | some child =>
          simp only [select, hlookup] at h
          cases h
      | null | bool b | int i | float x | string s | array items =>
        cases h
        exact .notObject fun members h => by cases h
    | index i =>
      cases v with
      | array items =>
        cases i with
        | negSucc n =>
          cases h
          exact .outOfRange (.inl (Int.negSucc_lt_zero n))
        | ofNat n =>
          cases hitem : items[n]? with
          | none =>
            simp only [select, hitem] at h
            cases h
            exact .outOfRange
              (.inr (Int.ofNat_le.2 (List.getElem?_eq_none_iff.1 hitem)))
          | some child =>
            simp only [select, hitem] at h
            cases h
      | null | bool b | int i | float x | string s | object members =>
        cases h
        exact .notArray fun items h => by cases h

/-- A step that goes nowhere is refused. -/
theorem exists_refuses (h : ∀ w, ¬ Goes jsonFields v step w) :
    ∃ reason, select v step = .error reason := by
  cases hselect : select v step with
  | error reason => exact ⟨reason, rfl⟩
  | ok child => exact absurd (goes_iff.2 ⟨child, hselect, rfl⟩) (h _)

theorem Goes.unique (h : Goes jsonFields v step w)
    (h' : Goes jsonFields v step w') : w = w' := by
  obtain ⟨child, hselect, rfl⟩ := goes_iff.1 h
  obtain ⟨child', hselect', rfl⟩ := goes_iff.1 h'
  rw [hselect] at hselect'
  cases hselect'
  rfl

-- =========================================================== all steps

theorem Leads.unique (h : Leads jsonFields v path w)
    (h' : Leads jsonFields v path w') : w = w' := by
  induction h with
  | nil v =>
    cases h'
    rfl
  | cons hgoes hrest ih =>
    cases h' with
    | cons hgoes' hrest' =>
      rw [hgoes.unique hgoes'] at ih
      exact ih hrest'

theorem leads_append_iff :
    Leads jsonFields v (p ++ q) w
      ↔ ∃ u, Leads jsonFields v p u ∧ Leads jsonFields u q w := by
  induction p generalizing v with
  | nil =>
    refine ⟨fun h => ⟨v, .nil v, h⟩, ?_⟩
    rintro ⟨u, hp, hq⟩
    cases hp
    exact hq
  | cons step p ih =>
    constructor
    · intro h
      cases h with
      | cons hgoes hrest =>
        obtain ⟨u, hp, hq⟩ := ih.1 hrest
        exact ⟨u, .cons hgoes hp, hq⟩
    · rintro ⟨u, hp, hq⟩
      cases hp with
      | cons hgoes hrest => exact .cons hgoes (ih.2 ⟨u, hrest, hq⟩)

theorem leads_concat_iff :
    Leads jsonFields v (p ++ [step]) w
      ↔ ∃ u, Leads jsonFields v p u ∧ Goes jsonFields u step w := by
  rw [leads_append_iff]
  refine exists_congr fun u => and_congr_right fun _ => ⟨fun h => ?_, ?_⟩
  · cases h with
    | cons hgoes hrest =>
      cases hrest
      exact hgoes
  · exact fun hgoes => .cons hgoes (.nil w)

/-- A path leads to a value or stops at a step. -/
theorem leads_or_stops (jsonFields : List Text) (root : Json)
    (path : Path) :
    (∃ v, Leads jsonFields root path v)
      ∨ ∃ before v step, Stops jsonFields root path before v step := by
  induction path generalizing root with
  | nil => exact .inl ⟨root, .nil root⟩
  | cons step path ih =>
    by_cases hgoes : ∃ next, Goes jsonFields root step next
    · obtain ⟨next, hgoes⟩ := hgoes
      rcases ih next with
        ⟨v, hleads⟩ | ⟨before, v, refused, ⟨after, hpath⟩, hleads, hno⟩
      · exact .inl ⟨v, .cons hgoes hleads⟩
      · exact .inr ⟨step :: before, v, refused,
          ⟨after, congrArg (step :: ·) hpath⟩, .cons hgoes hleads, hno⟩
    · exact .inr ⟨[], root, step, ⟨path, rfl⟩, .nil root,
        not_exists.1 hgoes⟩

theorem not_lands_nil : ¬ Lands jsonFields root [] field e := by
  rintro ⟨before, parent, hpath, -, -⟩
  cases before <;> cases hpath

/-- A path lands on what its last step lands on. -/
theorem lands_concat_iff (hleads : Leads jsonFields root before v) :
    Lands jsonFields root (before ++ [step]) field e
      ↔ step = .field field ∧ Undecodable jsonFields v field e := by
  constructor
  · rintro ⟨before', parent, hpath, hparent, hfield⟩
    obtain ⟨rfl, hstep⟩ := List.append_inj' hpath rfl
    cases hstep
    rw [hleads.unique hparent]
    exact ⟨rfl, hfield⟩
  · rintro ⟨rfl, hfield⟩
    exact ⟨before, v, rfl, hleads, hfield⟩

/-- Behind a path, the walk goes on from where the path leads. It
remembers the field that the last step has landed on, if that should hold
JSON and does not, and nothing else. -/
theorem exists_pending_of_leads (h : Leads jsonFields root p v) :
    ∃ pending : Option Undecoded,
      (∀ q, resolve jsonFields root (p ++ q)
        = (walkFrom jsonFields pending v q).outcome)
      ∧ ∀ field e, pending = some (field, e)
        ↔ Lands jsonFields root p field e := by
  -- from the end, since that is where the field is remembered
  induction p using List.reverseRecOn generalizing v with
  | nil =>
    cases h
    refine ⟨none, fun q => rfl, fun field e => ⟨nofun, fun hlands => ?_⟩⟩
    exact absurd hlands not_lands_nil
  | append_singleton p step ih =>
    obtain ⟨u, hleads, hgoes⟩ := leads_concat_iff.1 h
    obtain ⟨child, hselect, rfl⟩ := goes_iff.1 hgoes
    obtain ⟨pending, hwalk, -⟩ := ih hleads
    refine ⟨(land jsonFields step child).2, fun q => ?_, fun field e => ?_⟩
    · rw [List.append_assoc, hwalk]
      exact walkFrom_cons_of_select q hselect
    · rw [lands_concat_iff hleads]
      exact (undecodable_iff_land hselect).symm

-- ============================================================= arriving

/-- A path that leads somewhere comes to what it leads to. -/
theorem resolve_of_leads (h : Leads jsonFields root path v) :
    resolve jsonFields root path
      = if v.isNull then .error .nullValue else .ok v := by
  obtain ⟨pending, hwalk, -⟩ := exists_pending_of_leads h
  have hend := hwalk []
  rwa [List.append_nil] at hend

/-- A path that leads somewhere, and has not landed there in vain, is
followed behind as if it started there. -/
theorem resolve_append_of_leads (h : Leads jsonFields root p v)
    (hlands : ∀ field e, ¬ Lands jsonFields root p field e) (q : Path) :
    resolve jsonFields root (p ++ q) = resolve jsonFields v q := by
  obtain ⟨pending, hwalk, hpending⟩ := exists_pending_of_leads h
  have hnone : pending = none := by
    refine Option.eq_none_iff_forall_ne_some.2 fun undecoded hsome => ?_
    exact hlands _ _ ((hpending undecoded.1 undecoded.2).1 hsome)
  rw [hwalk, hnone]
  rfl

/-- A path that stops comes to what its last step has landed on, if that
does not decode. -/
theorem resolve_of_stops_behind (h : Stops jsonFields root path before v step)
    (hlands : Lands jsonFields root before field e) :
    resolve jsonFields root path = .error (.invalidJson field e) := by
  obtain ⟨⟨after, rfl⟩, hleads, hno⟩ := h
  obtain ⟨pending, hwalk, hpending⟩ := exists_pending_of_leads hleads
  obtain ⟨reason, hselect⟩ := exists_refuses hno
  rw [hwalk, walkFrom_cons_of_refused after hselect,
    (hpending field e).2 hlands]

/-- Otherwise it comes to why the step is refused. -/
theorem resolve_of_stops (h : Stops jsonFields root path before v step)
    (hlands : ∀ field e, ¬ Lands jsonFields root before field e)
    (hrefuses : Refuses v step reason) :
    resolve jsonFields root path = .error reason := by
  obtain ⟨⟨after, rfl⟩, hleads, -⟩ := h
  rw [resolve_append_of_leads hleads hlands]
  exact walkFrom_cons_of_refused after (refuses_iff.1 hrefuses)

theorem resolve_of_outcome {outcome : Except Reason Json}
    (h : Outcome jsonFields root path outcome) :
    resolve jsonFields root path = outcome := by
  cases h with
  | value hleads hnull =>
    rw [resolve_of_leads hleads, if_neg (mt isNull_iff.1 hnull)]
  | null hleads => exact resolve_of_leads hleads
  | undecoded hstops hlands => exact resolve_of_stops_behind hstops hlands
  | refused hstops hlands hrefuses =>
    exact resolve_of_stops hstops hlands hrefuses

theorem exists_outcome (jsonFields : List Text) (root : Json)
    (path : Path) :
    ∃ outcome, Outcome jsonFields root path outcome := by
  rcases leads_or_stops jsonFields root path with
    ⟨v, hleads⟩ | ⟨before, v, step, hstops⟩
  · cases v with
    | null => exact ⟨_, .null hleads⟩
    | bool b | int i | float x | string s | array items | object members =>
      exact ⟨_, .value hleads nofun⟩
  · by_cases hlands : ∃ field e, Lands jsonFields root before field e
    · obtain ⟨field, e, hlands⟩ := hlands
      exact ⟨_, .undecoded hstops hlands⟩
    · obtain ⟨reason, hselect⟩ := exists_refuses hstops.refused
      refine ⟨_, .refused hstops (fun field e h => ?_)
        (refuses_iff.2 hselect)⟩
      exact hlands ⟨field, e, h⟩

/-- A path comes to the value that it leads to, unless that is `null`; and
if it leads nowhere, to the reason why its first step that does not go
through is refused, or to the field that the step before has landed on in
vain. -/
theorem resolve_eq_iff (jsonFields : List Text) (root : Json) (path : Path)
    (outcome : Except Reason Json) :
    resolve jsonFields root path = outcome
      ↔ Outcome jsonFields root path outcome := by
  refine ⟨?_, resolve_of_outcome⟩
  rintro rfl
  obtain ⟨outcome, h⟩ := exists_outcome jsonFields root path
  rw [resolve_of_outcome h]
  exact h

-- ======================================================= cutting a path

/-- What has failed to decode is a string. -/
theorem exists_string_of_lands (h : Lands jsonFields root p field e)
    (hleads : Leads jsonFields root p v) : ∃ text, v = .string text := by
  obtain ⟨before, parent, rfl, hparent, hfield⟩ := h
  obtain ⟨u, hbefore, hgoes⟩ := leads_concat_iff.1 hleads
  obtain rfl := hbefore.unique hparent
  obtain ⟨child, hselect, rfl⟩ := goes_iff.1 hgoes
  have hland := (undecodable_iff_land hselect).1 ⟨rfl, hfield⟩
  exact pending_land _ child (Option.isSome_iff_exists.2 ⟨_, hland⟩)

/-- A path with a value leads to it. -/
theorem leads_of_resolve (h : resolve jsonFields root p = .ok v) :
    Leads jsonFields root p v ∧ v ≠ .null := by
  cases (resolve_eq_iff jsonFields root p _).1 h with
  | value hleads hnull => exact ⟨hleads, hnull⟩

/-- A path that stops does so however it goes on. -/
theorem Stops.append (h : Stops jsonFields root p before v step) (q : Path) :
    Stops jsonFields root (p ++ q) before v step := by
  obtain ⟨⟨after, rfl⟩, hleads, hno⟩ := h
  exact ⟨⟨after ++ q, List.append_assoc ..⟩, hleads, hno⟩

/-- With more steps behind, a path fails for what it has failed for,
unless that was only that it has arrived at `null`. -/
theorem resolve_append_of_error (h : resolve jsonFields root p = .error reason)
    (hnull : reason ≠ .nullValue) (q : Path) :
    resolve jsonFields root (p ++ q) = .error reason := by
  cases (resolve_eq_iff jsonFields root p _).1 h with
  | null hleads => exact absurd rfl hnull
  | undecoded hstops hlands =>
    exact resolve_of_stops_behind (hstops.append q) hlands
  | refused hstops hlands hrefuses =>
    exact resolve_of_stops (hstops.append q) hlands hrefuses

/-- A path can be followed in two parts, the second from the value at the
end of the first. Both ways give the same, a value or a reason; except
that a second part behind a field that has failed to decode is blamed on
the field, when it is followed in one, and otherwise on its own first
step. A first part that fails, and not for a `null` at its end, fails the
same whatever comes behind. -/
theorem resolve_append (jsonFields : List Text) (root : Json)
    (p q : Path) :
    (∀ v, resolve jsonFields root p = .ok v →
      (q = [] ∨ (∀ field e, ¬ Lands jsonFields root p field e) →
        resolve jsonFields root (p ++ q) = resolve jsonFields v q)
      ∧ ∀ step after field e, q = step :: after →
        Lands jsonFields root p field e →
          resolve jsonFields root (p ++ q) = .error (.invalidJson field e)
            ∧ resolve jsonFields v q = .error (refusal step))
    ∧ ∀ reason, resolve jsonFields root p = .error reason →
        reason ≠ .nullValue →
        resolve jsonFields root (p ++ q) = .error reason := by
  refine ⟨fun v hv => ⟨?_, ?_⟩, fun reason h hnull =>
    resolve_append_of_error h hnull q⟩
  · obtain ⟨hleads, hnull⟩ := leads_of_resolve hv
    rintro (rfl | hlands)
    · rw [List.append_nil, hv, resolve_of_leads (.nil v),
        if_neg (mt isNull_iff.1 hnull)]
    · exact resolve_append_of_leads hleads hlands q
  · rintro step after field e rfl hlands
    obtain ⟨hleads, -⟩ := leads_of_resolve hv
    obtain ⟨text, rfl⟩ := exists_string_of_lands hlands hleads
    have hstops : ∀ before, Leads jsonFields root before (.string text) →
        Stops jsonFields root (before ++ step :: after) before
          (.string text) step := fun before hbefore =>
      ⟨⟨after, rfl⟩, hbefore, fun w => not_goes_string text⟩
    refine ⟨resolve_of_stops_behind (hstops p hleads) hlands, ?_⟩
    exact walkFrom_cons_of_refused after (select_string text step)

/-- The string under `k` should hold JSON and holds none. -/
theorem resolve_append_behind_undecodable :
    resolve [['k']] (.object [(['k'], .string ['['])]) [.field ['k']]
        = .ok (.string ['['])
      ∧ resolve [['k']] (.string ['[']) [.index 0]
        = .error (.notIndexable 0)
      ∧ ∃ e, resolve [['k']] (.object [(['k'], .string ['['])])
          ([.field ['k']] ++ [.index 0])
        = .error (.invalidJson ['k'] e) := by
  have hvalue : resolve [['k']] (.object [(['k'], .string ['['])])
      [.field ['k']] = .ok (.string ['[']) := by
    with_unfolding_all rfl
  cases hread : Json.read ['['] with
  | ok document =>
    have hfails : (Json.read ['[']).toOption.isNone = true := by
      decide +kernel
    rw [hread] at hfails
    cases hfails
  | error e =>
    have hlands : Lands [['k']] (.object [(['k'], .string ['['])])
        [.field ['k']] ['k'] e :=
      ⟨[], _, rfl, .nil _, ['['], rfl, List.mem_singleton.2 rfl, hread⟩
    obtain ⟨hwhole, hbehind⟩ :=
      ((resolve_append [['k']] _ [.field ['k']] [.index 0]).1 _ hvalue).2
        _ _ _ _ rfl hlands
    exact ⟨hvalue, hbehind, e, hwhole⟩

end Stencil.Path
