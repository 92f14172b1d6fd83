/-
Reading a JSON number.

A number without fraction and exponent is whole if it fits in 64 bits;
all others are floating-point numbers. These are made the quick way: the
digits are gathered into a significand of 64 bits, those that no longer
fit only count by their place, and the significand is multiplied or
divided by a power of ten once. So the result may differ from the nearest
floating-point number in the last place.
-/
import Stencil.Json.Basic
import Stencil.Json.Fault

namespace Stencil.Json.Reader

open Text

/-- Takes digits into a significand as long as it stays below
`2 ^ 64`. -/
def gather (significand : Nat) : Text → Nat × Text
  | [] => (significand, [])
  | c :: t =>
    let larger := significand * 10 + (c.toNat - '0'.toNat)
    if c.isDigit && larger < 0x10000000000000000 then gather larger t
    else (significand, c :: t)

/-- Whether a digit comes next. -/
def startsWithDigit : Text → Bool
  | [] => false
  | c :: _ => c.isDigit

-- ==================================================== powers of ten

/-- The floating-point number nearest to `10 ^ n`. -/
def tenPower (n : Nat) : Float := Float.ofScientific 1 false n

/-- Divides by `10 ^ n`, in steps of at most `10 ^ 308`. -/
def divideByTenPower (x : Float) (n : Nat) : Float :=
  if n ≤ 308 then x / tenPower n
  else if x == 0 then x
  else divideByTenPower (x / tenPower 308) (n - 308)
termination_by n
decreasing_by omega

/-- The number `significand · 10 ^ exponent`, unless it is too large. -/
def scaled? (significand : Nat) : Int → Option Float
  | .negSucc n => some (divideByTenPower (Float.ofNat significand) (n + 1))
  | .ofNat n =>
    if n ≤ 308 then
      let x := Float.ofNat significand * tenPower n
      if x.isInf then none else some x
    else if significand = 0 then some 0
    else none

-- ============================================================= reading

/-- A floating-point number with its sign, in front of `rest`. -/
def signed (negative : Bool) (x : Float) (rest : Text) : Reading Json :=
  .ok (.float (if negative then -x else x), rest)

/-- The number that its parts give, in front of `rest`. -/
def ofParts (negative : Bool) (significand : Nat) (exponent : Int)
    (rest : Text) : Reading Json :=
  match scaled? significand exponent with
  | some x => signed negative x rest
  | none => .error (.before rest .numberOutOfRange)

/-- The digits of an exponent, behind the first one. An exponent of more
than 31 bits is not read to its end: the number is zero or too large. -/
def exponentDigits (value : Nat) : Text → Except Text (Nat × Text)
  | [] => .ok (value, [])
  | c :: t =>
    if c.isDigit then
      let larger := value * 10 + (c.toNat - '0'.toNat)
      if larger < 0x80000000 then exponentDigits larger t else .error t
    else .ok (value, c :: t)

/-- Reads what follows the `e` of an exponent. -/
def exponent (negative : Bool) (significand : Nat) (start : Int)
    (t : Text) : Reading Json :=
  let (down, t) :=
    match t with
    | '+' :: t => (false, t)
    | '-' :: t => (true, t)
    | t => (false, t)
  match t with
  | [] => .error (.before [] .endInValue)
  | c :: rest =>
    if c.isDigit then
      match exponentDigits (c.toNat - '0'.toNat) rest with
      | .ok (value, rest) =>
        let value : Int := if down then -value else value
        ofParts negative significand (start + value) rest
      | .error rest =>
        if significand ≠ 0 ∧ ¬ down then
          .error (.before rest .numberOutOfRange)
        else signed negative 0 (rest.dropWhile Char.isDigit)
    else .error (.on t .invalidNumber)

/-- Reads an exponent if there is one, and makes the number. -/
def withExponent (negative : Bool) (significand : Nat) (start : Int) :
    Text → Reading Json
  | 'e' :: t => exponent negative significand start t
  | 'E' :: t => exponent negative significand start t
  | t => ofParts negative significand start t

/-- Reads what follows the point of a fraction. Digits that do not fit
in the significand any more are passed over. -/
def fraction (negative : Bool) (significand : Nat) (start : Int)
    (t : Text) : Reading Json :=
  let (larger, rest) := gather significand t
  let count := t.length - rest.length
  if startsWithDigit rest then
    withExponent negative larger (start - count)
      (rest.dropWhile Char.isDigit)
  else if count = 0 then
    match rest with
    | [] => .error (.on [] .endInValue)
    | rest => .error (.on rest .invalidNumber)
  else withExponent negative larger (start - count) rest

/-- Reads what follows whole digits of which `dropped` did not fit in the
significand, when the number is no whole one. -/
def inexact (negative : Bool) (significand : Nat) (dropped : Nat) :
    Text → Reading Json
  | '.' :: t => fraction negative significand dropped t
  | t => withExponent negative significand dropped t

/-- The whole number with this sign and these digits, or the
floating-point number if it is out of range or a negative zero. -/
def whole (negative : Bool) (significand : Nat) : Json :=
  if negative then
    if significand = 0 ∨ 0x8000000000000000 < significand then
      .float (-(Float.ofNat significand))
    else .int (-significand)
  else .int significand

/-- Reads a number behind its sign. A leading zero stands alone. -/
def number (negative : Bool) : Text → Reading Json
  | [] => .error (.before [] .endInValue)
  | c :: t =>
    if ¬ c.isDigit then .error (.on (c :: t) .invalidNumber)
    else if c = '0' ∧ startsWithDigit t then
      .error (.on t .invalidNumber)
    else
      let (significand, rest) := gather 0 (c :: t)
      if startsWithDigit rest then
        inexact negative significand (rest.takeWhile Char.isDigit).length
          (rest.dropWhile Char.isDigit)
      else
        match rest with
        | '.' :: _ => inexact negative significand 0 rest
        | 'e' :: _ => inexact negative significand 0 rest
        | 'E' :: _ => inexact negative significand 0 rest
        | _ => .ok (whole negative significand, rest)

end Stencil.Json.Reader
