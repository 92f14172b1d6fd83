/-
Where a path leads, and what a walk along it meets.

`Leads` says which value a path leads to without looking at the walk: a
step goes from an object to the member that it names or from an array to
the item, and from a member that holds JSON in a string on to the document
in it. A walk `Meets` a field when it lands there and finds a string that
should hold JSON and does not.

# The argument

A walk takes the steps that a path has (`goes_iff`) and writes down each
field that it meets. It can meet one only, since what it stands at then is
a string, and a string has no parts that a step could go to
(`not_goes_string`).

Main statement: `exists_undecoded_walk`.
-/
import Stencil.Proofs.Expansion

namespace Stencil.Path

open Json

-- ================================================ statement vocabulary

/-- The part of a value that a step names: a member of an object, or an
item of an array, counted from 0. -/
inductive Enters : Json → Step → Json → Prop where
  | member {members : List (Text × Json)} {name : Text} {child : Json} :
      members.lookup name = some child →
      Enters (.object members) (.field name) child
  | item {items : List Json} {n : Nat} {child : Json} :
      items[n]? = some child →
      Enters (.array items) (.index n) child

/-- A step goes to the part that it names, or to the document that is held
there in a string. -/
inductive Goes (jsonFields : List Text) : Json → Step → Json → Prop where
  | decoded {v child document : Json} {name : Text} :
      Enters v (.field name) child →
      Decodes jsonFields name child document →
      Goes jsonFields v (.field name) document
  | kept {v child : Json} {step : Step} :
      Enters v step child →
      (∀ name document, step = .field name →
        ¬ Decodes jsonFields name child document) →
      Goes jsonFields v step child

/-- Every step of the path goes on from where the one before has led. -/
inductive Leads (jsonFields : List Text) : Json → Path → Json → Prop where
  | nil (v : Json) : Leads jsonFields v [] v
  | cons {v next w : Json} {step : Step} {path : Path} :
      Goes jsonFields v step next → Leads jsonFields next path w →
      Leads jsonFields v (step :: path) w

/-- The path lands on a field that should hold JSON, where there is a
string that cannot be decoded. -/
def Meets (jsonFields : List Text) (v : Json) (path : Path)
    (field : Text) (e : ReadError) : Prop :=
  ∃ before after parent, path = before ++ .field field :: after
    ∧ Leads jsonFields v before parent
    ∧ Undecodable jsonFields parent field e

-- ============================================================ one step

variable {jsonFields : List Text} {v w child : Json} {step : Step}

/-- A step enters what is selected. -/
theorem enters_iff : Enters v step child ↔ select v step = .ok child := by
  constructor
  · intro h
    cases h with
    | member hlookup => simp only [select, hlookup]
    | item hitem => simp only [select, hitem]
  · intro h
    cases step with
    | field name =>
      cases v with
      | object members =>
        cases hlookup : members.lookup name with
        | none =>
          simp only [select, hlookup] at h
          cases h
        | some found =>
          simp only [select, hlookup] at h
          cases h
          exact .member hlookup
      | null | bool b | int i | float x | string s | array items => cases h
    | index i =>
      cases v with
      | array items =>
        cases i with
        | negSucc n => cases h
        | ofNat n =>
          cases hitem : items[n]? with
          | none =>
            simp only [select, hitem] at h
            cases h
          | some found =>
            simp only [select, hitem] at h
            cases h
            exact .item hitem
      | null | bool b | int i | float x | string s | object members =>
        cases h

/-- A step goes to where a walk lands with what is selected. -/
theorem goes_iff :
    Goes jsonFields v step w
      ↔ ∃ child, select v step = .ok child
          ∧ (land jsonFields step child).1 = w := by
  constructor
  · intro h
    cases h with
    | decoded henters hdecodes =>
      refine ⟨_, enters_iff.1 henters, ?_⟩
      rw [land_of_decodes hdecodes]
    | kept henters hkept =>
      refine ⟨w, enters_iff.1 henters, ?_⟩
      cases step with
      | index i => rw [land_index]
      | field name =>
        exact land_of_not_decodes fun document => hkept name document rfl
  · rintro ⟨child, hselect, rfl⟩
    have henters := enters_iff.2 hselect
    cases step with
    | index i =>
      rw [land_index]
      exact .kept henters nofun
    | field name =>
      by_cases hholds : ∃ document, Decodes jsonFields name child document
      · obtain ⟨document, hdecodes⟩ := hholds
        rw [land_of_decodes hdecodes]
        exact .decoded henters hdecodes
      · have hkept : ∀ document, ¬ Decodes jsonFields name child document :=
          fun document hdecodes => hholds ⟨document, hdecodes⟩
        rw [land_of_not_decodes hkept]
        refine .kept henters fun other document hname => ?_
        cases hname
        exact hkept document

/-- A string has no parts. -/
theorem not_goes_string (s : Text) :
    ¬ Goes jsonFields (.string s) step w := by
  intro h
  obtain ⟨child, hselect, -⟩ := goes_iff.1 h
  rw [select_string] at hselect
  cases hselect

-- ============================================================ meetings

variable {path : Path} {field : Text} {e : ReadError}

theorem not_meets_nil : ¬ Meets jsonFields v [] field e := by
  rintro ⟨before, after, parent, hpath, -, -⟩
  cases before <;> cases hpath

/-- A path meets what its first step lands on, and what the others meet
from there. -/
theorem meets_cons_iff :
    Meets jsonFields v (step :: path) field e
      ↔ (step = .field field ∧ Undecodable jsonFields v field e)
        ∨ ∃ next, Goes jsonFields v step next
            ∧ Meets jsonFields next path field e := by
  constructor
  · rintro ⟨before, after, parent, hpath, hleads, hfield⟩
    cases hleads with
    | nil =>
      cases hpath
      exact .inl ⟨rfl, hfield⟩
    | @cons _ next _ first rest hgoes hrest =>
      cases hpath
      exact .inr ⟨next, hgoes, rest, after, parent, rfl, hrest, hfield⟩
  · rintro (⟨rfl, hfield⟩
      | ⟨next, hgoes, before, after, parent, rfl, hleads, hfield⟩)
    · exact ⟨[], path, v, rfl, .nil v, hfield⟩
    · exact ⟨step :: before, after, parent, rfl, .cons hgoes hleads, hfield⟩

/-- From a string nothing is met. -/
theorem not_meets_string (s : Text) :
    ¬ Meets jsonFields (.string s) path field e := by
  intro h
  cases path with
  | nil => exact not_meets_nil h
  | cons step path =>
    obtain ⟨-, text, hselect, -, -⟩ | ⟨next, hgoes, -⟩ := meets_cons_iff.1 h
    · rw [select_string] at hselect
      cases hselect
    · exact not_goes_string s hgoes

/-- A step meets what a walk remembers when it lands. -/
theorem undecodable_iff_land (hselect : select v step = .ok child) :
    step = .field field ∧ Undecodable jsonFields v field e
      ↔ (land jsonFields step child).2 = some (field, e) := by
  constructor
  · rintro ⟨rfl, text, hfield, hmem, hread⟩
    rw [hselect] at hfield
    cases hfield
    simp only [land, if_pos hmem, hread]
  · intro hland
    obtain ⟨text, rfl, rfl, -, hmem, hread⟩ :=
      land_undecoded (Prod.ext rfl hland)
    exact ⟨rfl, text, hselect, hmem, hread⟩

/-- A step that is refused meets nothing, nor does what is behind it. -/
theorem not_meets_of_refused {reason : Reason}
    (hselect : select v step = .error reason) :
    ¬ Meets jsonFields v (step :: path) field e := by
  intro h
  obtain ⟨rfl, text, hfield, -⟩ | ⟨next, hgoes, -⟩ := meets_cons_iff.1 h
  · rw [hselect] at hfield
    cases hfield
  · obtain ⟨child, hchild, -⟩ := goes_iff.1 hgoes
    rw [hselect] at hchild
    cases hchild

/-- A path meets what a walk remembers when its first step lands, and what
the others meet from there. -/
theorem meets_cons_of_select (hselect : select v step = .ok child) :
    Meets jsonFields v (step :: path) field e
      ↔ (land jsonFields step child).2 = some (field, e)
        ∨ Meets jsonFields (land jsonFields step child).1 path field e := by
  rw [meets_cons_iff, undecodable_iff_land hselect]
  refine or_congr_right ⟨?_, fun h => ⟨_, ?_, h⟩⟩
  · rintro ⟨next, hgoes, hmeets⟩
    obtain ⟨child', hchild, rfl⟩ := goes_iff.1 hgoes
    rw [hselect] at hchild
    cases hchild
    exact hmeets
  · exact goes_iff.2 ⟨child, hselect, rfl⟩

/-- A walk writes down the field that it meets, of which there is one at
most. -/
theorem exists_undecoded_walkFrom (jsonFields : List Text)
    (pending : Option Undecoded) (v : Json) (path : Path) :
    ∃ met : Option Undecoded,
      (walkFrom jsonFields pending v path).undecoded = met.toList
        ∧ ∀ field e, met = some (field, e)
          ↔ Meets jsonFields v path field e := by
  induction path generalizing pending v with
  | nil =>
    refine ⟨none, rfl, fun field e => ⟨nofun, fun h => ?_⟩⟩
    exact absurd h not_meets_nil
  | cons step path ih =>
    cases hselect : select v step with
    | error reason =>
      refine ⟨none, ?_, fun field e => ⟨nofun, fun h => ?_⟩⟩
      · cases pending <;> simp only [walkFrom, hselect] <;> rfl
      · exact absurd h (not_meets_of_refused hselect)
    | ok child =>
      have hwalk : (walkFrom jsonFields pending v (step :: path)).undecoded
          = (land jsonFields step child).2.toList
            ++ (walkFrom jsonFields (land jsonFields step child).2
                (land jsonFields step child).1 path).undecoded := by
        cases pending <;> simp only [walkFrom, hselect]
      obtain ⟨met, hmet, hiff⟩ := ih (land jsonFields step child).2
        (land jsonFields step child).1
      have hcons : ∀ field e, Meets jsonFields v (step :: path) field e
          ↔ (land jsonFields step child).2 = some (field, e)
            ∨ Meets jsonFields (land jsonFields step child).1 path field e :=
        fun field e => meets_cons_of_select hselect
      rw [hwalk, hmet]
      cases hland : (land jsonFields step child).2 with
      | none =>
        refine ⟨met, rfl, fun field e => ?_⟩
        rw [hiff, hcons, hland]
        simp only [reduceCtorEq, false_or]
      | some undecoded =>
        -- the walk stands at a string now, and meets nothing any more
        have hsome : (land jsonFields step child).2.isSome := by
          rw [hland]
          rfl
        obtain ⟨text, hstring⟩ := pending_land step child hsome
        have hnone : met = none := by
          refine Option.eq_none_iff_forall_ne_some.2 fun later hlater => ?_
          have hmeets := (hiff later.1 later.2).1 hlater
          rw [hstring] at hmeets
          exact not_meets_string text hmeets
        refine ⟨some undecoded, by rw [hnone]; rfl, fun field e => ?_⟩
        rw [hcons, hland, hstring]
        exact ⟨.inl, fun h => h.resolve_right (not_meets_string text)⟩

/-- A walk along a path writes down the field that the path meets, and
nothing if it meets none; it never meets two. -/
theorem exists_undecoded_walk (jsonFields : List Text) (root : Json)
    (path : Path) :
    ∃ met : Option Undecoded,
      (walk jsonFields root path).undecoded = met.toList
        ∧ ∀ field e, met = some (field, e)
          ↔ Meets jsonFields root path field e :=
  exists_undecoded_walkFrom jsonFields none root path

end Stencil.Path
