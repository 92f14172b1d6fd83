/-
What can be wrong with the text of a path or of a reference, and how it
is said.
-/
import Stencil.Text.Basic

namespace Stencil

/-- Why a text is no path and no reference. -/
inductive SyntaxError where
  /-- No identifier starts at this byte position. -/
  | identifierExpected (offset : Nat)
  /-- There is no digit where an integer has to stand. -/
  | integerExpected
  /-- The integer does not fit in 64 bits. -/
  | integerTooLarge
  /-- This character does not come where it has to. -/
  | charExpected (c : Char)
  /-- What stands in the brackets goes on behind its integer. -/
  | badIndex (inner : Text)
  /-- The path ends before this rest of the text. -/
  | unexpected (rest : Text)
  /-- What an alias or script reference names is no identifier. -/
  | badReference (name : Text)
deriving DecidableEq, Repr

/-- The wording of a syntax error. -/
def SyntaxError.message : SyntaxError → Text
  | identifierExpected offset =>
    Text.join ["identifier expected at offset ", Text.ofNat offset]
  | integerExpected => "expected integer"
  | integerTooLarge => "bad integer"
  | charExpected c => Text.join ["expected '", [c], "'"]
  | badIndex inner => Text.join ["bad index `", inner, "`"]
  | unexpected rest => Text.join ["unexpected `", rest, "` in path"]
  | badReference name => Text.join ["bad reference name `", name, "`"]

-- ===================================================== telling them apart

theorem Text.ofNat_injective : Function.Injective Text.ofNat := by
  intro m n h
  have hread := congrArg (Nat.ofDigitChars 10 · 0) h
  simp only [ofNat] at hread
  rwa [Nat.ofDigitChars_toDigits (by decide) (by decide),
    Nat.ofDigitChars_toDigits (by decide) (by decide)] at hread

namespace SyntaxError

/-- How the wordings begin, in the order of the errors. -/
def beginnings : List Text :=
  ["identifier", "expected i", "bad intege", "expected '", "bad index ",
    "unexpected", "bad refere"]

theorem idxOf_take_message (e : SyntaxError) :
    beginnings.idxOf (e.message.take 10) = e.ctorIdx := by
  cases e <;> rfl

/-- Different errors are said in different words. -/
theorem message_injective : Function.Injective message := by
  intro e e' h
  have hkind : e.ctorIdx = e'.ctorIdx := by
    rw [← idxOf_take_message, ← idxOf_take_message, h]
  -- behind the beginning comes what the error is about
  cases e <;> cases e' <;> cases hkind
  case identifierExpected.identifierExpected =>
    have hoffset := List.append_cancel_right (List.append_cancel_left h)
    rw [Text.ofNat_injective hoffset]
  case integerExpected.integerExpected => rfl
  case integerTooLarge.integerTooLarge => rfl
  case charExpected.charExpected =>
    have hchar := List.append_cancel_right (List.append_cancel_left h)
    rw [List.cons.inj hchar |>.1]
  case badIndex.badIndex =>
    rw [List.append_cancel_right (List.append_cancel_left h)]
  case unexpected.unexpected =>
    rw [List.append_cancel_right (List.append_cancel_left h)]
  case badReference.badReference =>
    rw [List.append_cancel_right (List.append_cancel_left h)]

end SyntaxError

end Stencil
