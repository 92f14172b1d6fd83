/-
A cursor reads a text from the front.

It holds what is left of the text and the byte position reached. Each
reading step answers and says where it leaves the cursor, also when it
fails: a failing `identifier` or `expect` does not move, while `integer`
takes what looks like a number and `upTo` takes all that is left before
they fail. `Request` names the steps, so that a whole course of them is
a list.

Main statement: `step_moves`, that a step passes a front part of what is
left and moves the position by its byte length.
-/
import Stencil.SyntaxError
import Stencil.Text.Identifier

namespace Stencil

open Text

/-- A place in a text. -/
structure Cursor where
  /-- How many bytes lie before the place. -/
  offset : Nat
  /-- What lies behind the place. -/
  rest : Text
deriving DecidableEq, Repr

/-- The place before the first character. -/
def Cursor.start (t : Text) : Cursor := ⟨0, t⟩

/-- The values of a 64-bit signed integer. -/
def isInt64 (i : Int) : Bool :=
  -0x8000000000000000 ≤ i && i < 0x8000000000000000

/-- A `-` at the front of a text, if there is one, and what comes after. -/
def splitSign : Text → Text × Text
  | '-' :: t => (['-'], t)
  | t => ([], t)

/-- The value of a sign and decimal digits. -/
def integerValue (sign digits : Text) : Int :=
  let magnitude : Int := Nat.ofDigitChars 10 digits 0
  if sign = [] then magnitude else -magnitude

namespace Cursor

/-- The place behind `taken`, with `rest` after it. -/
def past (c : Cursor) (taken rest : Text) : Cursor :=
  ⟨c.offset + byteLength taken, rest⟩

/-- Reads the longest identifier that starts here. -/
def identifier (c : Cursor) : Except SyntaxError Text × Cursor :=
  match c.rest with
  | [] => (.error (.identifierExpected c.offset), c)
  | x :: t =>
    if isIdentStart x then
      let name := x :: t.takeWhile isIdentContinue
      (.ok name, c.past name (t.dropWhile isIdentContinue))
    else (.error (.identifierExpected c.offset), c)

/-- Reads an integer: an optional `-` and decimal digits, whose value has
to fit in 64 bits. -/
def integer (c : Cursor) : Except SyntaxError Int × Cursor :=
  let (sign, body) := splitSign c.rest
  let digits := body.takeWhile Char.isDigit
  let after := c.past (sign ++ digits) (body.dropWhile Char.isDigit)
  if digits = [] then (.error .integerExpected, after)
  else if isInt64 (integerValue sign digits) then
    (.ok (integerValue sign digits), after)
  else (.error .integerTooLarge, after)

/-- Reads what comes before the next `stop`, which has to come. -/
def upTo (stop : Char) (c : Cursor) : Except SyntaxError Text × Cursor :=
  let taken := c.rest.takeWhile (· ≠ stop)
  let rest := c.rest.dropWhile (· ≠ stop)
  if rest = [] then (.error (.charExpected stop), c.past taken rest)
  else (.ok taken, c.past taken rest)

/-- Passes the character `x` if it comes next, and says whether. -/
def accept (x : Char) (c : Cursor) : Bool × Cursor :=
  match c.rest with
  | [] => (false, c)
  | y :: t => if y = x then (true, c.past [y] t) else (false, c)

/-- Passes the character `x`, which has to come next. -/
def expect (x : Char) (c : Cursor) : Except SyntaxError Unit × Cursor :=
  match c.accept x with
  | (true, after) => (.ok (), after)
  | (false, after) => (.error (.charExpected x), after)

/-- The next character. -/
def peek (c : Cursor) : Option Char := c.rest.head?

/-- Whether nothing is left. -/
def atEnd (c : Cursor) : Bool := c.rest.isEmpty

-- ================================================== courses of steps

/-- A step to take. -/
inductive Request where
  | identifier
  | integer
  | upTo (stop : Char)
  | expect (x : Char)
  | accept (x : Char)
  | peek
  | atEnd
deriving DecidableEq, Repr

/-- What a step answers. -/
inductive Reply where
  | text (t : Text)
  | integer (i : Int)
  | passed
  | flag (b : Bool)
  | char (c : Option Char)
  | failed (error : SyntaxError)
deriving DecidableEq, Repr

/-- Takes a step. -/
def step (c : Cursor) : Request → Reply × Cursor
  | .identifier => c.identifier.map reply id
  | .integer =>
    match c.integer with
    | (.ok i, after) => (.integer i, after)
    | (.error e, after) => (.failed e, after)
  | .upTo stop => (c.upTo stop).map reply id
  | .expect x =>
    match c.expect x with
    | (.ok (), after) => (.passed, after)
    | (.error e, after) => (.failed e, after)
  | .accept x => (c.accept x).map .flag id
  | .peek => (.char c.peek, c)
  | .atEnd => (.flag c.atEnd, c)
where
  reply : Except SyntaxError Text → Reply
    | .ok t => .text t
    | .error e => .failed e

/-- Takes steps one after the other; each answer comes with the place
reached. -/
def run (c : Cursor) : List Request → List (Reply × Cursor)
  | [] => []
  | request :: more =>
    let (reply, after) := c.step request
    (reply, after) :: run after more

-- ===================================================== what is passed

/-- The cursor `after` lies behind `c`: something at the front of what was
left has been passed, and the position says how long it is. -/
def Moves (c after : Cursor) : Prop :=
  ∃ taken, c.rest = taken ++ after.rest
    ∧ after.offset = c.offset + byteLength taken

theorem Moves.refl (c : Cursor) : Moves c c := ⟨[], by simp⟩

theorem Moves.trans {a b c : Cursor} (hab : Moves a b) (hbc : Moves b c) :
    Moves a c := by
  obtain ⟨s, hs, hs'⟩ := hab
  obtain ⟨t, ht, ht'⟩ := hbc
  exact ⟨s ++ t, by simp [hs, ht], by simp [hs', ht']; omega⟩

theorem moves_past {c : Cursor} {taken rest : Text}
    (h : c.rest = taken ++ rest) : Moves c (c.past taken rest) :=
  ⟨taken, h, rfl⟩

theorem splitSign_append (t : Text) :
    (splitSign t).1 ++ (splitSign t).2 = t := by
  unfold splitSign
  split <;> rfl

theorem identifier_moves (c : Cursor) : Moves c c.identifier.2 := by
  unfold identifier
  split
  · exact .refl c
  · rename_i x t h
    split
    · exact moves_past (by simp [h, List.takeWhile_append_dropWhile])
    · exact .refl c

theorem integer_moves (c : Cursor) : Moves c c.integer.2 := by
  have h : c.rest = ((splitSign c.rest).1
      ++ (splitSign c.rest).2.takeWhile Char.isDigit)
      ++ (splitSign c.rest).2.dropWhile Char.isDigit := by
    rw [List.append_assoc, List.takeWhile_append_dropWhile, splitSign_append]
  unfold integer
  simp only
  split
  · exact moves_past h
  · split <;> exact moves_past h

theorem upTo_moves (stop : Char) (c : Cursor) : Moves c (c.upTo stop).2 := by
  have h : c.rest = c.rest.takeWhile (· ≠ stop)
      ++ c.rest.dropWhile (· ≠ stop) :=
    List.takeWhile_append_dropWhile.symm
  unfold upTo
  simp only
  split <;> exact moves_past h

theorem accept_moves (x : Char) (c : Cursor) : Moves c (c.accept x).2 := by
  unfold accept
  split
  · exact .refl c
  · split
    · exact moves_past (by simp [*])
    · exact .refl c

theorem expect_snd (x : Char) (c : Cursor) :
    (c.expect x).2 = (c.accept x).2 := by
  unfold expect
  split <;> simp [*]

/-- Every step passes a front part of what is left. -/
theorem step_moves (c : Cursor) (request : Request) :
    Moves c (c.step request).2 := by
  cases request with
  | identifier => exact c.identifier_moves
  | integer =>
    have h := c.integer_moves
    simp only [step]
    split <;> simpa [*] using h
  | upTo stop => exact c.upTo_moves stop
  | expect x =>
    have h := c.accept_moves x
    rw [← expect_snd] at h
    simp only [step]
    split <;> simpa [*] using h
  | accept x => exact c.accept_moves x
  | peek => exact .refl c
  | atEnd => exact .refl c

/-- A cursor that has moved has no more left than before. -/
theorem Moves.length_le {c after : Cursor} (h : Moves c after) :
    after.rest.length ≤ c.rest.length := by
  obtain ⟨taken, h, -⟩ := h
  simp [h]

end Cursor

end Stencil
