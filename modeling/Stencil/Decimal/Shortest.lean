/-
The shortest decimal number that stands for a floating-point number.

A decimal number stands for a floating-point number if no other one is
nearer to it, or if it lies halfway and the floating-point number has the
even mantissa. Among those that do, the shortest is looked for on the
multiples of one power of ten after another, from large powers to small
ones: on the first grid that has a point in the interval, the point next
to the number is taken. If any point of a grid lies in the interval, one
of the two points around the number does, so no others are tried. All of
it is exact arithmetic on natural numbers.
-/

namespace Stencil.Decimal

/-- A positive number `mantissa · 2 ^ exponent`, as a 64-bit
floating-point number has it. -/
structure Binary where
  mantissa : Nat
  exponent : Int
deriving DecidableEq, Repr

/-- The least mantissa of a number that has all 53 binary digits:
`2 ^ 52`. -/
def leastFull : Nat := 0x10000000000000

/-- The number that a floating-point number is, its sign left out. -/
def Binary.ofFloat (x : Float) : Binary :=
  let bits := x.toBits.toNat
  let field : Nat := bits / leastFull % 0x800
  let fraction : Nat := bits % leastFull
  if field = 0 then ⟨fraction, -1074⟩
  else ⟨leastFull + fraction, (field : Int) - 1075⟩

/-- A positive decimal number `digits · 10 ^ exponent`. -/
structure Scaled where
  digits : Nat
  exponent : Int
deriving DecidableEq, Repr

/-- The interval of the numbers that a floating-point number stands for,
and the number itself, on the scale of a grid: each in the same unit as
`step`, the distance between two points of the grid. -/
structure Window where
  low : Nat
  value : Nat
  high : Nat
  /-- Whether the ends of the interval belong to it. -/
  closed : Bool
  step : Nat

/-- The window of a number on the grid of the multiples of `10 ^ k`. The
unit is a quarter of the distance between neighbouring floating-point
numbers, or a fraction of that; below a power of two the neighbour is
half as far away. -/
def Binary.window (x : Binary) (k : Int) : Window :=
  let scale := Nat.pow 2 (x.exponent - 2).toNat * Nat.pow 10 (-k).toNat
  let below :=
    if x.mantissa = leastFull ∧ -1074 < x.exponent then 1 else 2
  { low := (4 * x.mantissa - below) * scale
    value := 4 * x.mantissa * scale
    high := (4 * x.mantissa + 2) * scale
    closed := x.mantissa % 2 == 0
    step := Nat.pow 10 k.toNat * Nat.pow 2 (2 - x.exponent).toNat }

/-- Whether the `n`th point of the grid lies in the interval. -/
def Window.holds (w : Window) (n : Nat) : Bool :=
  if w.closed then w.low ≤ n * w.step && n * w.step ≤ w.high
  else w.low < n * w.step && n * w.step < w.high

/-- The point of the grid in the interval that is nearest to the number;
of two equally near ones the even one. -/
def Window.nearest? (w : Window) : Option Nat :=
  let n := w.value / w.step
  match w.holds n, w.holds (n + 1) with
  | false, false => none
  | true, false => some n
  | false, true => some (n + 1)
  | true, true =>
    let middle := (2 * n + 1) * w.step
    if 2 * w.value < middle then some n
    else if middle < 2 * w.value then some (n + 1)
    else if n % 2 = 0 then some n
    else some (n + 1)

/-- The point on the coarsest grid that has one in the interval; `count`
grids are tried, from the multiples of `10 ^ k` on downwards. -/
def Binary.coarsest (x : Binary) : Nat → Int → Scaled
  | 0, k => ⟨0, k⟩
  | count + 1, k =>
    match (x.window k).nearest? with
    | some n => ⟨n, k⟩
    | none => coarsest x count (k - 1)

/-- The shortest decimal number that stands for a positive floating-point
number. No such number reaches `10 ^ 309`, and all of them are multiples
of `10 ^ (-1074)`. -/
def Binary.shortest (x : Binary) : Scaled := x.coarsest 1384 309

end Stencil.Decimal
