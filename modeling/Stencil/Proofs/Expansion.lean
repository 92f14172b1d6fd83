/-
Decoding on the way and decoding beforehand come to the same.

A walk decodes a string only when it arrives at it by the name of a field
that holds JSON. `Expands` says that a document is another one with all
such strings decoded: those that are members of an object under one of
these names, and those in what has been decoded, but neither the document
itself, nor the items of arrays, nor a decoded string a second time.

# The simulation

The two walks, the one that decodes in the document and the one that
never does in the expanded one, go side by side. Before each step the
value of the second is an expansion of the value of the first, with what
the first has decoded on arrival in place (`select_expands`), so they
have the same kind: both select or both refuse, for the same reason. Only
a field that has just failed to decode makes a difference, since the
first walk remembers it and blames it for the next refusal. Then both
values are the same string (`Pending`), and what the second walk reports
is that a string has no parts.

Main statement: `resolve_expands`.
-/
import Stencil.Path.Walk

namespace Stencil

-- ================================================ statement vocabulary

namespace Json

/-- The member `name` holds `document` in a string. -/
def Decodes (jsonFields : List Text) (name : Text) (child document : Json) :
    Prop :=
  ∃ text, name ∈ jsonFields ∧ child = .string text
    ∧ Json.read text = .ok document

mutual

/-- The second document is the first one with the members that hold JSON
in a string decoded, once each and all the way down. -/
inductive Expands (jsonFields : List Text) : Json → Json → Prop where
  | null : Expands jsonFields .null .null
  | bool (b : Bool) : Expands jsonFields (.bool b) (.bool b)
  | int (i : Int) : Expands jsonFields (.int i) (.int i)
  | float (x : Float) : Expands jsonFields (.float x) (.float x)
  | string (s : Text) : Expands jsonFields (.string s) (.string s)
  | array {items items' : List Json} :
    ItemsExpand jsonFields items items' →
      Expands jsonFields (.array items) (.array items')
  | object {members members' : List (Text × Json)} :
    MembersExpand jsonFields members members' →
      Expands jsonFields (.object members) (.object members')

/-- `Expands` for each item of an array. -/
inductive ItemsExpand (jsonFields : List Text) :
    List Json → List Json → Prop where
  | nil : ItemsExpand jsonFields [] []
  | cons {item item' : Json} {rest rest' : List Json} :
    Expands jsonFields item item' → ItemsExpand jsonFields rest rest' →
      ItemsExpand jsonFields (item :: rest) (item' :: rest')

/-- `Expands` for each member of an object, which keeps its name. -/
inductive MembersExpand (jsonFields : List Text) :
    List (Text × Json) → List (Text × Json) → Prop where
  | nil : MembersExpand jsonFields [] []
  /-- A member that holds JSON becomes an expansion of that. -/
  | decoded {name : Text} {child document value : Json}
    {rest rest' : List (Text × Json)} :
    Decodes jsonFields name child document →
      Expands jsonFields document value →
      MembersExpand jsonFields rest rest' →
      MembersExpand jsonFields ((name, child) :: rest)
        ((name, value) :: rest')
  /-- Any other member becomes an expansion of itself. -/
  | kept {name : Text} {child value : Json}
    {rest rest' : List (Text × Json)} :
    (∀ document, ¬ Decodes jsonFields name child document) →
      Expands jsonFields child value →
      MembersExpand jsonFields rest rest' →
      MembersExpand jsonFields ((name, child) :: rest)
        ((name, value) :: rest')

end

end Json

namespace Path

open Json

/-- Why a value without parts refuses a step. -/
def refusal : Step → Reason
  | .field name => .notAnObject name
  | .index i => .notIndexable i

/-- The member `field` of a value is a string that should hold JSON and
does not, for the reason `e`. -/
def Undecodable (jsonFields : List Text) (parent : Json) (field : Text)
    (e : ReadError) : Prop :=
  ∃ text, select parent (.field field) = .ok (.string text)
    ∧ field ∈ jsonFields ∧ Json.read text = .error e

-- ============================================================== landing

variable {jsonFields : List Text}

theorem land_index (i : Int) (child : Json) :
    land jsonFields (.index i) child = (child, none) := by
  cases child <;> rfl

/-- A walk goes on in a value that is no string. -/
theorem land_of_not_string (step : Step) {child : Json}
    (h : ∀ s, child ≠ .string s) :
    land jsonFields step child = (child, none) := by
  cases step with
  | index i => exact land_index i child
  | field name =>
    cases child with
    | string s => exact absurd rfl (h s)
    | null | bool b | int i | float x | array items | object members => rfl

/-- A walk goes on in what a member holds. -/
theorem land_of_decodes {name : Text} {child document : Json}
    (h : Decodes jsonFields name child document) :
    land jsonFields (.field name) child = (document, none) := by
  obtain ⟨text, hname, rfl, hread⟩ := h
  simp only [land, if_pos hname, hread]

/-- A walk goes on in a member itself that holds nothing. -/
theorem land_of_not_decodes {name : Text} {child : Json}
    (h : ∀ document, ¬ Decodes jsonFields name child document) :
    (land jsonFields (.field name) child).1 = child := by
  cases child with
  | string text =>
    by_cases hname : name ∈ jsonFields
    · cases hread : Json.read text with
      | ok document => exact absurd ⟨text, hname, rfl, hread⟩ (h document)
      | error e => simp only [land, if_pos hname, hread]
    · simp only [land, if_neg hname]
  | null | bool b | int i | float x | array items | object members => rfl

/-- A walk remembers a field just when it stands at a string under its
name that is no JSON. -/
theorem land_undecoded {step : Step} {child value : Json} {field : Text}
    {e : ReadError}
    (h : land jsonFields step child = (value, some (field, e))) :
    ∃ text, step = .field field ∧ child = .string text ∧ value = child
      ∧ field ∈ jsonFields ∧ Json.read text = .error e := by
  cases step with
  | index i =>
    rw [land_index] at h
    cases h
  | field name =>
    cases child with
    | string text =>
      by_cases hname : name ∈ jsonFields
      · cases hread : Json.read text with
        | ok document =>
          simp only [land, if_pos hname, hread] at h
          cases h
        | error e' =>
          simp only [land, if_pos hname, hread] at h
          cases h
          exact ⟨text, rfl, rfl, rfl, hname, hread⟩
      · simp only [land, if_neg hname] at h
        cases h
    | null | bool b | int i | float x | array items | object members =>
      cases h

theorem land_nil (step : Step) (child : Json) :
    land [] step child = (child, none) := by
  cases step with
  | index i => exact land_index i child
  | field name => cases child <;> rfl

-- ============================================================ selecting

theorem getElem?_expand {items items' : List Json}
    (h : ItemsExpand jsonFields items items') (n : Nat) :
    (items[n]? = none ∧ items'[n]? = none)
      ∨ ∃ item item', items[n]? = some item ∧ items'[n]? = some item'
          ∧ Expands jsonFields item item' := by
  induction items generalizing items' n with
  | nil =>
    cases h
    exact .inl ⟨rfl, rfl⟩
  | cons item items ih =>
    cases h with
    | @cons _ item' _ rest' hitem hrest =>
      cases n with
      | zero => exact .inr ⟨item, item', rfl, rfl, hitem⟩
      | succ n => exact ih hrest n

theorem length_expand {items items' : List Json}
    (h : ItemsExpand jsonFields items items') :
    items'.length = items.length := by
  induction items generalizing items' with
  | nil =>
    cases h
    rfl
  | cons item items ih =>
    cases h with
    | cons hitem hrest => exact congrArg (· + 1) (ih hrest)

/-- Whether or not a member holds JSON, the member beside it is an
expansion of what a walk goes on in. -/
theorem members_expand_cons {name : Text} {child : Json}
    {rest members' : List (Text × Json)}
    (h : MembersExpand jsonFields ((name, child) :: rest) members') :
    ∃ value rest', members' = (name, value) :: rest'
      ∧ Expands jsonFields (land jsonFields (.field name) child).1 value
      ∧ MembersExpand jsonFields rest rest' := by
  cases h with
  | @decoded _ _ document value _ rest' hdecodes hvalue hrest =>
    refine ⟨value, rest', rfl, ?_, hrest⟩
    rw [land_of_decodes hdecodes]
    exact hvalue
  | @kept _ _ value _ rest' hkept hvalue hrest =>
    refine ⟨value, rest', rfl, ?_, hrest⟩
    rw [land_of_not_decodes hkept]
    exact hvalue

theorem lookup_expand {members members' : List (Text × Json)}
    (h : MembersExpand jsonFields members members') (name : Text) :
    (members.lookup name = none ∧ members'.lookup name = none)
      ∨ ∃ child value, members.lookup name = some child
          ∧ members'.lookup name = some value
          ∧ Expands jsonFields (land jsonFields (.field name) child).1
              value := by
  induction members generalizing members' with
  | nil =>
    cases h
    exact .inl ⟨rfl, rfl⟩
  | cons member rest ih =>
    obtain ⟨first, child⟩ := member
    obtain ⟨value, rest', rfl, hvalue, hrest⟩ := members_expand_cons h
    by_cases hname : name = first
    · subst hname
      exact .inr ⟨child, value, by simp, by simp, hvalue⟩
    · have hne : (name == first) = false := by simpa using hname
      simp only [List.lookup_cons, hne]
      exact ih hrest

/-- A value and an expansion of it take the same steps, and where both
take one the second arrives at an expansion of what the first goes on
in. -/
theorem select_expands {v w : Json} (h : Expands jsonFields v w)
    (step : Step) :
    (∃ child child', select v step = .ok child ∧ select w step = .ok child'
        ∧ Expands jsonFields (land jsonFields step child).1 child')
      ∨ ∃ reason, select v step = .error reason
          ∧ select w step = .error reason := by
  cases h with
  | null | bool b | int i | float x | string s =>
    cases step <;> exact .inr ⟨_, rfl, rfl⟩
  | @array items items' hitems =>
    cases step with
    | field name => exact .inr ⟨_, rfl, rfl⟩
    | index i =>
      cases i with
      | negSucc n =>
        refine .inr ⟨_, rfl, ?_⟩
        rw [select, length_expand hitems]
      | ofNat n =>
        rcases getElem?_expand hitems n with
          ⟨hnone, hnone'⟩ | ⟨item, item', hsome, hsome', hitem⟩
        · refine .inr ⟨.indexOutOfRange (.ofNat n) items.length, ?_, ?_⟩
          · simp only [select, hnone]
          · simp only [select, hnone', length_expand hitems]
        · refine .inl ⟨item, item', ?_, ?_, ?_⟩
          · simp only [select, hsome]
          · simp only [select, hsome']
          · rw [land_index]
            exact hitem
  | object hmembers =>
    cases step with
    | index i => exact .inr ⟨_, rfl, rfl⟩
    | field name =>
      rcases lookup_expand hmembers name with
        ⟨hnone, hnone'⟩ | ⟨child, value, hsome, hsome', hvalue⟩
      · refine .inr ⟨.missingField name, ?_, ?_⟩
        · simp only [select, hnone]
        · simp only [select, hnone']
      · refine .inl ⟨child, value, ?_, ?_, hvalue⟩
        · simp only [select, hsome]
        · simp only [select, hsome']

theorem select_string (s : Text) (step : Step) :
    select (.string s) step = .error (refusal step) := by
  cases step <;> rfl

-- ============================================================== walking

/-- What a walk remembers of the field it has arrived at says that it
stands at a string. -/
def Pending (v : Json) (pending : Option Undecoded) : Prop :=
  pending.isSome → ∃ text, v = .string text

theorem pending_land (step : Step) (child : Json) :
    Pending (land jsonFields step child).1
      (land jsonFields step child).2 := by
  intro hsome
  obtain ⟨⟨field, e⟩, hland⟩ := Option.isSome_iff_exists.1 hsome
  obtain ⟨text, -, rfl, hvalue, -⟩ :=
    land_undecoded (Prod.ext rfl hland)
  exact ⟨text, hvalue⟩

/-- A step that is taken leaves the rest of the walk to do. -/
theorem walkFrom_cons_of_select {pending : Option Undecoded} {v child : Json}
    {step : Step} (path : Path) (h : select v step = .ok child) :
    (walkFrom jsonFields pending v (step :: path)).outcome
      = (walkFrom jsonFields (land jsonFields step child).2
          (land jsonFields step child).1 path).outcome := by
  cases pending <;> simp only [walkFrom, h]

/-- A step that is refused ends the walk, and is blamed for it if nothing
is remembered. -/
theorem walkFrom_cons_of_refused {pending : Option Undecoded} {v : Json}
    {step : Step} {reason : Reason} (path : Path)
    (h : select v step = .error reason) :
    (walkFrom jsonFields pending v (step :: path)).outcome
      = .error (match pending with
          | some (field, e) => .invalidJson field e
          | none => reason) := by
  cases pending <;> simp only [walkFrom, h]

/-- The walk along `path` from `v` is refused at `step`, and blames for
that the field `field` to which the step before it leads, or which is
remembered when there is none before. -/
def Blames (jsonFields : List Text) (pending : Option Undecoded) (v : Json)
    (path : Path) (step : Step) (field : Text) (e : ReadError) : Prop :=
  (pending = some (field, e) ∧ ∃ after, path = step :: after)
    ∨ ∃ before after parent, path = before ++ .field field :: step :: after
        ∧ (walkFrom jsonFields pending v before).outcome = .ok parent
        ∧ Undecodable jsonFields parent field e

/-- Blame does not depend on the steps before the walk stands where it
does. -/
theorem Blames.cons {pending : Option Undecoded} {v child : Json}
    {path : Path} {first step : Step} {field : Text} {e : ReadError}
    (hselect : select v first = .ok child)
    (h : Blames jsonFields (land jsonFields first child).2
      (land jsonFields first child).1 path step field e) :
    Blames jsonFields pending v (first :: path) step field e := by
  rcases h with
    ⟨hland, after, rfl⟩ | ⟨before, after, parent, rfl, hwalk, hfield⟩
  · obtain ⟨text, rfl, rfl, -, hmem, hread⟩ :=
      land_undecoded (Prod.ext rfl hland)
    refine .inr ⟨[], after, v, rfl, ?_, text, hselect, hmem, hread⟩
    cases v with
    | object members => rfl
    | null | bool b | int i | float x | string s | array items =>
      cases hselect
  · refine .inr ⟨first :: before, after, parent, rfl, ?_, hfield⟩
    rw [walkFrom_cons_of_select before hselect, hwalk]

/-- What the two walks come to: a value and an expansion of it, or the
same reason, or what the first one blames on a field and the second one
on the step behind. -/
inductive Agree (jsonFields : List Text) (pending : Option Undecoded)
    (v : Json) (path : Path) :
    Except Reason Json → Except Reason Json → Prop where
  | value {x y : Json} : Expands jsonFields x y →
      Agree jsonFields pending v path (.ok x) (.ok y)
  | reason (r : Reason) :
    Agree jsonFields pending v path (.error r) (.error r)
  | blamed {step : Step} {field : Text} {e : ReadError} :
    Blames jsonFields pending v path step field e →
      Agree jsonFields pending v path (.error (.invalidJson field e))
        (.error (refusal step))

theorem isNull_expand {v w : Json} (h : Expands jsonFields v w) :
    w.isNull = v.isNull := by
  cases h <;> rfl

/-- The two walks agree, from wherever they stand side by side. -/
theorem walkFrom_agree {v w : Json} (h : Expands jsonFields v w)
    {pending : Option Undecoded} (hpending : Pending v pending)
    (path : Path) :
    Agree jsonFields pending v path
      (walkFrom jsonFields pending v path).outcome
      (walkFrom [] none w path).outcome := by
  induction path generalizing v w pending with
  | nil =>
    rw [walkFrom, walkFrom, isNull_expand h]
    by_cases hnull : v.isNull = true
    · simp only [if_pos hnull]
      exact .reason .nullValue
    · simp only [if_neg hnull]
      exact .value h
  | cons step path ih =>
    rcases select_expands h step with
      ⟨child, child', hv, hw, hchild⟩ | ⟨reason, hv, hw⟩
    · rw [walkFrom_cons_of_select path hv, walkFrom_cons_of_select path hw,
        land_nil]
      have hagree := ih hchild (pending_land step child)
      generalize (walkFrom jsonFields _ _ path).outcome = lazy at hagree ⊢
      generalize (walkFrom [] none child' path).outcome = eager at hagree ⊢
      cases hagree with
      | value hxy => exact .value hxy
      | reason r => exact .reason r
      | blamed hblames => exact .blamed (hblames.cons hv)
    · rw [walkFrom_cons_of_refused path hv, walkFrom_cons_of_refused path hw]
      cases pending with
      | none => exact .reason reason
      | some undecoded =>
        obtain ⟨field, e⟩ := undecoded
        obtain ⟨text, rfl⟩ := hpending rfl
        rw [select_string] at hv
        cases hv
        exact .blamed (.inl ⟨rfl, path, rfl⟩)

/-- Following a path with decoding on the way, and without any in an
expanded document, give a value and an expansion of it, or neither gives
one. Then both give the same reason, unless the path goes on behind a
string that should hold JSON and does not: the one blames the string for
that, the other the step for being asked of a string. -/
theorem resolve_expands {root w : Json} (h : Expands jsonFields root w)
    (path : Path) :
    (∀ v, resolve jsonFields root path = .ok v →
        ∃ v', resolve [] w path = .ok v' ∧ Expands jsonFields v v')
      ∧ (∀ v', resolve [] w path = .ok v' →
        ∃ v, resolve jsonFields root path = .ok v
          ∧ Expands jsonFields v v')
      ∧ ∀ lazy eager, resolve jsonFields root path = .error lazy →
        resolve [] w path = .error eager →
          lazy = eager
            ∨ ∃ before field step after parent e,
                path = before ++ .field field :: step :: after
                ∧ resolve jsonFields root before = .ok parent
                ∧ Undecodable jsonFields parent field e
                ∧ lazy = .invalidJson field e ∧ eager = refusal step := by
  have hpending : Pending root none := nofun
  have hagree := walkFrom_agree h hpending path
  change Agree _ _ _ _ (resolve jsonFields root path) (resolve [] w path)
    at hagree
  generalize resolve jsonFields root path = lazy at hagree ⊢
  generalize resolve [] w path = eager at hagree ⊢
  cases hagree with
  | @value x y hxy =>
    refine ⟨?_, ?_, ?_⟩
    · intro v hv
      cases hv
      exact ⟨y, rfl, hxy⟩
    · intro v' hv'
      cases hv'
      exact ⟨x, rfl, hxy⟩
    · intro _ _ hlazy
      cases hlazy
  | reason r =>
    refine ⟨?_, ?_, ?_⟩
    · intro v hv
      cases hv
    · intro v' hv'
      cases hv'
    · intro _ _ hlazy heager
      cases hlazy
      cases heager
      exact .inl rfl
  | @blamed step field e hblames =>
    refine ⟨?_, ?_, ?_⟩
    · intro v hv
      cases hv
    · intro v' hv'
      cases hv'
    · intro _ _ hlazy heager
      cases hlazy
      cases heager
      obtain ⟨hnone, -⟩ | ⟨before, after, parent, hpath, hwalk, hfield⟩ :=
        hblames
      · cases hnone
      · exact .inr ⟨before, field, step, after, parent, e, hpath, hwalk,
          hfield, rfl, rfl⟩

theorem resolve_expands_beside_undecodable :
    Expands [['b'], ['k']]
        (.object [(['b'], .string ['[']), (['k'], .string ['[', '1', ']'])])
        (.object [(['b'], .string ['[']), (['k'], .array [.int 1])])
      ∧ ∃ v', resolve []
          (.object [(['b'], .string ['[']), (['k'], .array [.int 1])])
          [.field ['k'], .index 0] = .ok v'
        ∧ Expands [['b'], ['k']] (.int 1) v' := by
  have hkept : ∀ document,
      ¬ Decodes [['b'], ['k']] ['b'] (.string ['[']) document := by
    rintro document ⟨text, -, htext, hread⟩
    cases htext
    have hfails : (Json.read ['[']).toOption.isNone = true := by
      decide +kernel
    rw [hread] at hfails
    cases hfails
  have hread : Json.read ['[', '1', ']'] = .ok (.array [.int 1]) := by
    with_unfolding_all rfl
  have hexpands : Expands [['b'], ['k']]
      (.object [(['b'], .string ['[']), (['k'], .string ['[', '1', ']'])])
      (.object [(['b'], .string ['[']), (['k'], .array [.int 1])]) :=
    .object (.kept hkept (.string _)
      (.decoded ⟨_, by simp, rfl, hread⟩ (.array (.cons (.int 1) .nil))
        .nil))
  have hresolve : resolve [['b'], ['k']]
      (.object [(['b'], .string ['[']), (['k'], .string ['[', '1', ']'])])
      [.field ['k'], .index 0] = .ok (.int 1) := by
    with_unfolding_all rfl
  exact ⟨hexpands, (resolve_expands hexpands
    [.field ['k'], .index 0]).1 (.int 1) hresolve⟩

end Path

end Stencil
