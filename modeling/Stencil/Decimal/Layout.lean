/-
How floating-point numbers are written out.

A layout decides which numbers are written with a point and which with an
exponent; the digits are the fewest that stand for the number. A number
with a point has a digit on both sides of it, and an exponent always has
its sign.
-/
import Stencil.Decimal.Shortest
import Stencil.Text.Basic

namespace Stencil.Decimal

open Text

/-- Which numbers are written with a point only: those whose first digit
stands for a power of ten from `10 ^ least` to `10 ^ greatest`. -/
structure Layout where
  least : Int
  greatest : Int

/-- Digits with a point behind the first `whole` of them, zeros being
filled in. -/
def pointed (digits : Text) (whole : Int) : Text :=
  if whole ≤ 0 then
    "0.".toList ++ List.replicate (-whole).toNat '0' ++ digits
  else if whole < digits.length then
    digits.take whole.toNat ++ ['.'] ++ digits.drop whole.toNat
  else
    digits ++ List.replicate (whole - digits.length).toNat '0' ++ ".0"

/-- Digits with a point behind the first one and an exponent of ten. -/
def scientific (digits : Text) (power : Int) : Text :=
  let mantissa :=
    match digits with
    | first :: second :: more => first :: '.' :: second :: more
    | few => few
  let sign : Text := if power < 0 then ['-'] else ['+']
  mantissa ++ ['e'] ++ sign ++ ofNat power.natAbs

/-- A positive decimal number in a layout. -/
def Layout.write (layout : Layout) (x : Scaled) : Text :=
  let digits := ofNat x.digits
  let power := x.exponent + digits.length - 1
  if layout.least ≤ power ∧ power ≤ layout.greatest then
    pointed digits (power + 1)
  else scientific digits power

/-- A finite floating-point number in a layout. -/
def Layout.writeFloat (layout : Layout) (x : Float) : Text :=
  let sign : Text :=
    if 0x8000000000000000 ≤ x.toBits.toNat then ['-'] else []
  let magnitude := Binary.ofFloat x
  if magnitude.mantissa = 0 then sign ++ "0.0"
  else sign ++ layout.write magnitude.shortest

end Stencil.Decimal
