/-
Following a path into a document.

Each step goes from an object to a member or from an array to an item.
Some fields are known to hold JSON in a string: when a step by name
arrives at such a string, the walk goes on in the document that the
string holds. A string that holds none stays a string; that is no error
unless the path goes on, and then it is reported in place of the step
that fails for it. A path that ends at `null` has no value.
-/
import Stencil.Json.Reader
import Stencil.Path.Basic
import Stencil.Reason

namespace Stencil.Path

/-- A field whose string holds no JSON, and why it does not. -/
abbrev Undecoded := Text × Json.ReadError

/-- The part of a value that a step leads to. -/
def select (v : Json) : Step → Except Reason Json
  | .field name =>
    match v with
    | .object members =>
      match members.lookup name with
      | some child => .ok child
      | none => .error (.missingField name)
    | _ => .error (.notAnObject name)
  | .index i =>
    match v with
    | .array items =>
      match i with
      | .ofNat n =>
        match items[n]? with
        | some child => .ok child
        | none => .error (.indexOutOfRange i items.length)
      | .negSucc _ => .error (.indexOutOfRange i items.length)
    | _ => .error (.notIndexable i)

/-- Where a walk goes on after a step has led to `child`: in the document
that it holds if it is a string under one of `jsonFields`, otherwise in
`child` itself. -/
def land (jsonFields : List Text) (step : Step) (child : Json) :
    Json × Option Undecoded :=
  match step, child with
  | .field name, .string text =>
    if name ∈ jsonFields then
      match Json.read text with
      | .ok document => (document, none)
      | .error e => (child, some (name, e))
    else (child, none)
  | _, _ => (child, none)

/-- What came of a walk. -/
structure Walk where
  outcome : Except Reason Json
  /-- The fields on the way that should hold JSON and do not. -/
  undecoded : List Undecoded

/-- Follows a path from a value. `pending` is the field that the step
before arrived at, if it should hold JSON and does not. -/
def walkFrom (jsonFields : List Text) (pending : Option Undecoded)
    (v : Json) : Path → Walk
  | [] => ⟨if v.isNull then .error .nullValue else .ok v, []⟩
  | step :: path =>
    match select v step, pending with
    | .error _, some (field, e) => ⟨.error (.invalidJson field e), []⟩
    | .error reason, none => ⟨.error reason, []⟩
    | .ok child, _ =>
      let (value, undecoded) := land jsonFields step child
      let later := walkFrom jsonFields undecoded value path
      ⟨later.outcome, undecoded.toList ++ later.undecoded⟩

/-- Follows a path from the root of a document. -/
def walk (jsonFields : List Text) (root : Json) (path : Path) : Walk :=
  walkFrom jsonFields none root path

/-- The value at a path. -/
def resolve (jsonFields : List Text) (root : Json) (path : Path) :
    Except Reason Json :=
  (walk jsonFields root path).outcome

-- ===================================================== the fields on a path

section Fields

variable {jsonFields jsonFields' : List Text}

theorem land_congr {step : Step}
    (h : ∀ name, step = .field name →
      (name ∈ jsonFields ↔ name ∈ jsonFields')) (child : Json) :
    land jsonFields step child = land jsonFields' step child := by
  cases step with
  | index i => cases child <;> rfl
  | field name =>
    cases child with
    | string text => simp only [land, h name rfl]
    | null | bool b | int i | float x | array items | object members => rfl

/-- A walk asks for no field but those on its path. -/
theorem walkFrom_congr {path : Path}
    (h : ∀ name, .field name ∈ path →
      (name ∈ jsonFields ↔ name ∈ jsonFields'))
    (pending : Option Undecoded) (v : Json) :
    walkFrom jsonFields pending v path
      = walkFrom jsonFields' pending v path := by
  induction path generalizing pending v with
  | nil => rfl
  | cons step path ih =>
    have hland : land jsonFields step = land jsonFields' step := by
      refine funext (land_congr fun name hstep => h name ?_)
      rw [hstep]
      exact List.mem_cons_self ..
    have hrest := ih fun name hname => h name (List.mem_cons_of_mem _ hname)
    simp only [walkFrom, hland, hrest]

end Fields

end Stencil.Path
