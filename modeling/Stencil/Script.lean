/-
Scripts, and the registries that hold them.

A script returns its values in turn and starts over after the last one.
What it returns next depends on how often it has been called, and that is
not kept in the script: `Turns` counts the calls of every script that was
ever registered, under the number that it got then. So a registry is a
plain table which can be copied and changed on its own, while the copies
go on counting the same script together; registering a name again makes a
new script with a count of its own. A script that comes from elsewhere
gets a number as well, and goes on from the count that it brings along
(`Prepared`).

`Shelf` is a row of registries that have one count of turns.
-/
import Stencil.Failure
import Stencil.Json.Basic
import Stencil.Table
import Stencil.Text.Identifier

namespace Stencil

/-- What the function behind a script hands back: JSON, or a
floating-point number, which need not be finite. -/
inductive Returned where
  | json (value : Json)
  | nan
  | infinity (negative : Bool)
deriving Inhabited

/-- What is handed back as JSON, which has nothing but `null` for a
number that is not finite. -/
def Returned.toJson : Returned → Json
  | json value => value
  | nan => .null
  | infinity _ => .null

/-- A registered script. -/
structure Script where
  /-- The number under which its turns are counted. -/
  id : Nat
  /-- What it returns, in turn. -/
  values : List Json

/-- How often each script has been called; the position in the list is
the number of the script. -/
abbrev Turns := List Nat

namespace Turns

/-- How often a script has been called. -/
def count (turns : Turns) (id : Nat) : Nat := turns[id]?.getD 0

/-- The counts after one more call of a script. -/
def advance (turns : Turns) (id : Nat) : Turns := turns.modify id (· + 1)

/-- The number of the next script to be registered. -/
def fresh (turns : Turns) : Nat := turns.length

/-- The counts with that of a script which has been called so often
before it came here. -/
def extendBy (turns : Turns) (called : Nat) : Turns := turns ++ [called]

/-- The counts with that of a new script, which has not been called. -/
def extend (turns : Turns) : Turns := turns.extendBy 0

@[simp] theorem length_advance (turns : Turns) (id : Nat) :
    (turns.advance id).length = turns.length := List.length_modify ..

@[simp] theorem length_extendBy (turns : Turns) (called : Nat) :
    (turns.extendBy called).length = turns.length + 1 := by
  simp [extendBy]

/-- A script that was never registered has not been called. -/
theorem count_of_length_le {turns : Turns} {id : Nat}
    (h : turns.length ≤ id) : turns.count id = 0 := by
  rw [count, List.getElem?_eq_none h]
  rfl

/-- One more script changes no count but its own. -/
theorem count_extendBy (turns : Turns) (called id : Nat) :
    (turns.extendBy called).count id
      = if id = turns.length then called else turns.count id := by
  unfold count extendBy
  rcases Nat.lt_trichotomy id turns.length with h | h | h
  · rw [if_neg (by omega), List.getElem?_append_left h]
  · rw [if_pos h, h, List.getElem?_concat_length]
    rfl
  · rw [if_neg (by omega), List.getElem?_eq_none (by simp; omega),
      List.getElem?_eq_none (by omega)]

/-- A call counts for the script called and for no other. -/
theorem count_advance {turns : Turns} {id : Nat} (other : Nat)
    (h : id < turns.length) :
    (turns.advance id).count other
      = if other = id then turns.count other + 1 else turns.count other := by
  unfold count advance
  rw [List.getElem?_modify]
  by_cases heq : id = other
  · subst heq
    rw [if_pos rfl, List.getElem?_eq_getElem h]
    simp
  · rw [if_neg (Ne.symm heq)]
    simp [heq]

end Turns

/-- What a script returns when it has been called `n` times before. -/
def Script.value (s : Script) (n : Nat) : Json :=
  s.values[n % s.values.length]?.getD .null

/-- Calls a script: what it returns this time, and the counts after it. -/
def Script.call (s : Script) (turns : Turns) : Json × Turns :=
  (s.value (turns.count s.id), turns.advance s.id)

/-- A script that comes from elsewhere: with the name and the values it
was registered with, and with the calls that it has had since. -/
structure Prepared where
  name : Text
  values : List Returned
  /-- How often it has been called. -/
  called : Nat

/-- A script as it comes out of a registry, where it has this name. -/
def Script.prepared (s : Script) (turns : Turns) (name : Text) : Prepared :=
  { name := name
    values := s.values.map .json
    called := turns.count s.id }

/-- The scripts that a template can refer to, by name. -/
structure Registry where
  scripts : Table Script

namespace Registry

/-- The registry without scripts. -/
def empty : Registry := ⟨∅⟩

instance : Inhabited Registry := ⟨empty⟩

/-- The script of a name. -/
def find? (r : Registry) (name : Text) : Option Script :=
  r.scripts.find? name

/-- Whether there is a script of this name. -/
def contains (r : Registry) (name : Text) : Bool := r.scripts.contains name

/-- How many scripts there are. -/
def size (r : Registry) : Nat := r.scripts.size

/-- Whether there are no scripts. -/
def isEmpty (r : Registry) : Bool := r.size == 0

/-- Takes over a script under its name, which has to be one that a
template can refer to. -/
def adopt (r : Registry) (turns : Turns) (script : Prepared) :
    Except TemplateError (Registry × Turns) :=
  if Text.isIdentifier script.name then
    .ok (⟨r.scripts.insert script.name
      ⟨turns.fresh, script.values.map Returned.toJson⟩⟩,
      turns.extendBy script.called)
  else .error (.invalidScript script.name)

/-- Makes a new script and gives it a name. -/
def register (r : Registry) (turns : Turns) (name : Text)
    (values : List Returned) : Except TemplateError (Registry × Turns) :=
  r.adopt turns ⟨name, values, 0⟩

/-- A name that a template can refer to is taken, and stands for the
script taken over. -/
theorem exists_adopt (r : Registry) (turns : Turns) (script : Prepared)
    (hname : Text.isIdentifier script.name = true) :
    ∃ r', r.adopt turns script = .ok (r', turns.extendBy script.called)
      ∧ ∀ other, r'.find? other
        = if other = script.name then
            some ⟨turns.fresh, script.values.map Returned.toJson⟩
          else r.find? other := by
  refine ⟨⟨r.scripts.insert script.name
    ⟨turns.fresh, script.values.map Returned.toJson⟩⟩, ?_, fun other => ?_⟩
  · rw [adopt, if_pos hname]
  · exact Table.find?_insert r.scripts script.name other _

theorem adopt_refused (r : Registry) (turns : Turns) (script : Prepared)
    (hname : ¬ Text.isIdentifier script.name = true) :
    r.adopt turns script = .error (.invalidScript script.name) := by
  rw [adopt, if_neg hname]

theorem exists_register (r : Registry) (turns : Turns) {name : Text}
    (hname : Text.isIdentifier name = true) (values : List Returned) :
    ∃ r', r.register turns name values = .ok (r', turns.extend)
      ∧ ∀ other, r'.find? other
        = if other = name then
            some ⟨turns.fresh, values.map Returned.toJson⟩
          else r.find? other :=
  r.exists_adopt turns ⟨name, values, 0⟩ hname

theorem register_refused (r : Registry) (turns : Turns) {name : Text}
    (hname : ¬ Text.isIdentifier name = true) (values : List Returned) :
    r.register turns name values = .error (.invalidScript name) :=
  r.adopt_refused turns ⟨name, values, 0⟩ hname

/-- The scripts of a registry as they come out of it. -/
def prepared (r : Registry) (turns : Turns) : List Prepared :=
  r.scripts.entries.map fun (name, script) => script.prepared turns name

/-- Takes over scripts one after the other. One that is refused changes
nothing; the answers say which were. -/
def adoptAll (r : Registry) (turns : Turns) :
    List Prepared → List (Except TemplateError Unit) × Registry × Turns
  | [] => ([], r, turns)
  | script :: more =>
    match r.adopt turns script with
    | .ok (r, turns) =>
      let (answers, result) := adoptAll r turns more
      (.ok () :: answers, result)
    | .error e =>
      let (answers, result) := adoptAll r turns more
      (.error e :: answers, result)

end Registry

-- =============================================================== shelves

/-- A row of registries, the copies of one another, and the count of the
turns of all their scripts. -/
structure Shelf where
  registries : List Registry
  turns : Turns

namespace Shelf

/-- A shelf with one registry, which is empty. -/
def start : Shelf := ⟨[.empty], []⟩

/-- What can be done with one of the registries. -/
inductive Request where
  /-- Put a copy of it at the end of the row. -/
  | clone
  | register (name : Text) (values : List Returned)
  | call (name : Text)
  | contains (name : Text)

/-- What is answered. -/
inductive Reply where
  /-- The place of a copy. -/
  | slot (place : Nat)
  | registered (answer : Except TemplateError Unit)
  /-- What a script has returned, if there is one of the name. -/
  | returned (value : Option Json)
  | flag (b : Bool)

/-- Does something with the registry at a place; without one there,
nothing is answered. -/
def act? (shelf : Shelf) (place : Nat) (request : Request) :
    Option (Reply × Shelf) := do
  let r ← shelf.registries[place]?
  match request with
  | .clone =>
    some (.slot shelf.registries.length,
      { shelf with registries := shelf.registries ++ [r] })
  | .register name values =>
    match r.register shelf.turns name values with
    | .ok (r, turns) =>
      some (.registered (.ok ()), ⟨shelf.registries.set place r, turns⟩)
    | .error e => some (.registered (.error e), shelf)
  | .call name =>
    match r.find? name with
    | some script =>
      let (value, turns) := script.call shelf.turns
      some (.returned (some value), { shelf with turns := turns })
    | none => some (.returned none, shelf)
  | .contains name => some (.flag (r.contains name), shelf)

/-- Does one thing after the other, each with the registry at a place;
each answer comes with the shelf after it. -/
def run? (shelf : Shelf) :
    List (Nat × Request) → Option (List (Reply × Shelf))
  | [] => some []
  | (place, request) :: more => do
    let (reply, after) ← shelf.act? place request
    let later ← run? after more
    some ((reply, after) :: later)

end Shelf

end Stencil
