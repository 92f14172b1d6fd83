/-
Identifiers: the names of fields, aliases and scripts.

An identifier starts with a letter, a digit or `_` and goes on with
those, combining marks and connectors. A character counts as a whole
whatever its code point, so letters beyond the first plane and accents
that are characters of their own stay inside the name. `isIdentifier`
judges a whole text; reading one off the front of a text is the
business of `Stencil.Cursor`.
-/
import Stencil.Text.Alphabetic
import Stencil.Text.Basic
import Stencil.Text.Blank
import Stencil.Text.Numeric
import Stencil.Text.XidContinue

namespace Stencil.Text

/-- Letters and digits, with whatever else words are written with. -/
def isAlphanumeric (c : Char) : Bool := isAlphabetic c || isNumeric c

/-- What an identifier may start with. The property XID_Start adds only
`℘` and `℮` to the letters and digits. -/
def isIdentStart (c : Char) : Bool :=
  c == '_' || c == '℘' || c == '℮' || isAlphanumeric c

/-- What an identifier may go on with. -/
def isIdentContinue (c : Char) : Bool := isXidContinue c || isAlphanumeric c

/-- Whether a text is an identifier: it is not empty, and its characters
are such as an identifier starts and goes on with. -/
def isIdentifier : Text → Bool
  | [] => false
  | c :: t => isIdentStart c && t.all isIdentContinue

-- ================================================ what is no part of one

/-- What an identifier starts with it may also go on with. -/
theorem isIdentContinue_of_isIdentStart {c : Char}
    (h : isIdentStart c = true) : isIdentContinue c = true := by
  simp only [isIdentStart, Bool.or_eq_true, beq_iff_eq] at h
  rcases h with ((rfl | rfl) | rfl) | h
  · decide +kernel
  · decide +kernel
  · decide +kernel
  · rw [isIdentContinue, h, Bool.or_true]

theorem isIdentContinue_of_mem {t : Text} {c : Char}
    (h : isIdentifier t = true) (hc : c ∈ t) : isIdentContinue c = true := by
  cases t with
  | nil => cases hc
  | cons d t =>
    simp only [isIdentifier, Bool.and_eq_true, List.all_eq_true] at h
    rcases List.mem_cons.1 hc with rfl | hc
    · exact isIdentContinue_of_isIdentStart h.1
    · exact h.2 c hc

theorem ne_nil_of_isIdentifier {t : Text} (h : isIdentifier t = true) :
    t ≠ [] := by
  rintro rfl
  cases h

/-- No white space is part of an identifier. -/
theorem isIdentContinue_of_isBlank {c : Char} (h : isBlank c = true) :
    isIdentContinue c = false :=
  eq_false_of_isBlank (by decide +kernel) h

theorem isBlank_of_isIdentContinue {c : Char}
    (h : isIdentContinue c = true) : isBlank c = false := by
  cases hblank : isBlank c with
  | false => rfl
  | true => rw [isIdentContinue_of_isBlank hblank] at h; cases h

/-- The characters with which names are put together to paths, expressions
and placeholders. -/
def delimiters : List Char :=
  ['.', '[', ']', '-', ':', '?', '$', '{', '}']

/-- No delimiter is part of an identifier. -/
theorem isIdentContinue_of_delimiter {c : Char} (h : c ∈ delimiters) :
    isIdentContinue c = false := by
  have hall : delimiters.all (!isIdentContinue ·) = true := by
    decide +kernel
  simpa using List.all_eq_true.1 hall c h

end Stencil.Text
