/-
The text of a floating-point number in JSON.
-/
import Stencil.Decimal.Layout

namespace Stencil.Json

/-- Numbers from `0.00001` up to those of sixteen whole digits are written
with a point, all others with an exponent. -/
def floatLayout : Decimal.Layout := ⟨-5, 15⟩

/-- A floating-point number as JSON; what is no number is `null`. -/
def floatText (x : Float) : Text :=
  if x.isFinite then floatLayout.writeFloat x else "null"

end Stencil.Json
