/-
A text in quotes for messages, so that every character of it shows.

Quotes, backslashes and the common controls take the usual escapes; a
character that shows nothing of its own, or that would be drawn into the
one before it, is given by its code point as `\u{…}`; all others stand
for themselves.
-/
import Stencil.Text.Basic
import Stencil.Text.GraphemeExtend
import Stencil.Text.Unprintable

namespace Stencil.Text

/-- Whether this letter only fills the place of a Hangul sound, which
makes it the one kind of letter that shows nothing. -/
def isFiller (c : Char) : Bool :=
  c == '\u115f' || c == '\u1160' || c == '\u3164' || c == '\uffa0'

/-- Whether a quoted text does not show a character as it is. -/
def isHidden (c : Char) : Bool :=
  isGraphemeExtend c || isUnprintable c || isFiller c

/-- A character as a quoted text shows it. -/
def shown (c : Char) : Text :=
  if c = '"' then ['\\', '"']
  else if c = '\\' then ['\\', '\\']
  else if c = '\n' then ['\\', 'n']
  else if c = '\r' then ['\\', 'r']
  else if c = '\t' then ['\\', 't']
  else if c.toNat = 0 then ['\\', '0']
  else if isHidden c then
    "\\u\x7b".toList ++ Nat.toDigits 16 c.toNat ++ "\x7d".toList
  else [c]

/-- A text in quotes. -/
def quoted (t : Text) : Text := '"' :: t.flatMap shown ++ ['"']

end Stencil.Text
