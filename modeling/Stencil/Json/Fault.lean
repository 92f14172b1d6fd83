/-
What can be wrong with a text that is read as JSON, and where.

While reading, a fault is placed by how many bytes of the text are left
behind its place, so that no reading step has to count lines. Only when a
fault is reported is that turned into a line and a column. There are two
ways to place a fault in front of a rest of the text: *at* it, and *on*
its first byte, which is one byte further on unless the text is over.
-/
import Stencil.Json.FloatText
import Stencil.Text.Quoted

namespace Stencil.Json

open Text

/-- What stands in the text where something else was wanted. -/
inductive Found where
  | null
  | bool (b : Bool)
  | int (i : Int)
  | float (x : Float)
  | string (s : Text)
  | sequence
  | map
deriving DecidableEq

/-- The wording of what was found. -/
def Found.message : Found → Text
  | null => "null"
  | bool true => "boolean `true`"
  | bool false => "boolean `false`"
  | int i => join ["integer `", ofInt i, "`"]
  | float x => join ["floating point `", floatText x, "`"]
  | string s => join ["string ", quoted s]
  | sequence => "sequence"
  | map => "map"

/-- Why a text cannot be read. -/
inductive Cause where
  | endInValue
  | endInList
  | endInObject
  | endInString
  | valueExpected
  | wordExpected
  | colonExpected
  | listCommaOrEndExpected
  | objectCommaOrEndExpected
  | keyNotString
  | trailingComma
  | trailingCharacters
  | invalidNumber
  | numberOutOfRange
  | invalidEscape
  | loneSurrogate
  | hexEscapeCutShort
  | controlCharacter
  /-- The text nests too deeply. -/
  | tooDeep
  /-- A well-formed value is not of the kind that is wanted. -/
  | invalidType (found : Found) (wanted : Text)
  /-- A member that is none of those known. -/
  | unknownField (name : Text) (known : List Text)
  /-- A member that comes twice. -/
  | duplicateField (name : Text)
deriving DecidableEq

/-- The wording of a cause. -/
def Cause.message : Cause → Text
  | endInValue => "EOF while parsing a value"
  | endInList => "EOF while parsing a list"
  | endInObject => "EOF while parsing an object"
  | endInString => "EOF while parsing a string"
  | valueExpected => "expected value"
  | wordExpected => "expected ident"
  | colonExpected => "expected `:`"
  | listCommaOrEndExpected => "expected `,` or `]`"
  | objectCommaOrEndExpected => "expected `,` or `\x7d`"
  | keyNotString => "key must be a string"
  | trailingComma => "trailing comma"
  | trailingCharacters => "trailing characters"
  | invalidNumber => "invalid number"
  | numberOutOfRange => "number out of range"
  | invalidEscape => "invalid escape"
  | loneSurrogate => "lone leading surrogate in hex escape"
  | hexEscapeCutShort => "unexpected end of hex escape"
  | controlCharacter =>
    "control character (\\u0000-\\u001F) found while parsing a string"
  | tooDeep => "recursion limit exceeded"
  | invalidType found wanted =>
    join ["invalid type: ", found.message, ", expected ", wanted]
  | unknownField name known =>
    join ["unknown field `", name, "`, expected one of ",
      joinWith ", " (known.map fun field => join ["`", field, "`"])]
  | duplicateField name => join ["duplicate field `", name, "`"]

/-- A cause, and how many bytes of the text lie behind its place. -/
structure Fault where
  cause : Cause
  left : Nat
deriving DecidableEq

/-- The fault in front of `rest`. -/
def Fault.before (rest : Text) (cause : Cause) : Fault :=
  ⟨cause, byteLength rest⟩

/-- The fault on the first byte of `rest`, or at the end if none is
left. -/
def Fault.on (rest : Text) (cause : Cause) : Fault :=
  ⟨cause, byteLength rest - 1⟩

/-- What a reading step gives: a value with the text behind it, or a
fault. -/
abbrev Reading (α : Type) := Except Fault (α × Text)

/-- The line of a place, counted from 1, and how many bytes come before
it on that line. -/
structure Position where
  line : Nat
  column : Nat
deriving DecidableEq, Repr

/-- The place behind the first `n` bytes of a text, when it starts at
`p`. -/
def Position.after (p : Position) : Nat → Text → Position
  | _, [] => p
  | 0, _ :: _ => p
  | n + 1, c :: t =>
    if n + 1 < c.utf8Size then { p with column := p.column + (n + 1) }
    else if c = '\n' then after ⟨p.line + 1, 0⟩ n t
    else after { p with column := p.column + c.utf8Size }
      (n + 1 - c.utf8Size) t

/-- Why a text was refused, and where. -/
structure ReadError where
  cause : Cause
  position : Position
deriving DecidableEq

/-- The wording of a refusal. -/
def ReadError.message (e : ReadError) : Text :=
  join [e.cause.message, " at line ", ofNat e.position.line,
    " column ", ofNat e.position.column]

/-- Reads a whole text by a step after which nothing may be left: faults
get their place as a line and a column. -/
def report {α : Type} (text : Text) (result : Except Fault α) :
    Except ReadError α :=
  result.mapError fun fault =>
    ⟨fault.cause,
      Position.after ⟨1, 0⟩ (byteLength text - fault.left) text⟩

end Stencil.Json
