/-
JSON documents.

A number is whole or a floating-point number, as its spelling has it;
the members of an object are kept in the order of their names, each name
once. `Json.WellFormed` says so of every object in a document, and that
every whole number has one of the 64-bit forms.
-/
import Stencil.Table

namespace Stencil

/-- A JSON document. -/
inductive Json where
  | null
  | bool (b : Bool)
  /-- A whole number. -/
  | int (i : Int)
  /-- A number with a fraction or an exponent, or one too large to be
  kept whole. -/
  | float (x : Float)
  | string (s : Text)
  | array (items : List Json)
  | object (members : List (Text × Json))
deriving Inhabited

namespace Json

/-- Whether a document is `null`. -/
def isNull : Json → Bool
  | null => true
  | _ => false

/-- The whole numbers that a document can hold: those of 64 bits, signed
or not. -/
def isWhole (i : Int) : Bool :=
  -0x8000000000000000 ≤ i && i < 0x10000000000000000

mutual

/-- Objects have their members in the order of the names, and whole
numbers fit in 64 bits. -/
def WellFormed : Json → Prop
  | int i => isWhole i
  | array items => AllWellFormed items
  | object members => Ascending members ∧ MembersWellFormed members
  | _ => True

/-- `WellFormed` for each item of an array. -/
def AllWellFormed : List Json → Prop
  | [] => True
  | item :: rest => WellFormed item ∧ AllWellFormed rest

/-- `WellFormed` for the value of each member of an object. -/
def MembersWellFormed : List (Text × Json) → Prop
  | [] => True
  | (_, value) :: rest => WellFormed value ∧ MembersWellFormed rest

end

end Json

end Stencil
