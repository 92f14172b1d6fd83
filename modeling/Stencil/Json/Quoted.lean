/-
Strings in JSON: writing them in quotes, and reading them back.

Writing escapes quotes, backslashes and the controls below the space, and
nothing else. Reading takes all escapes of the format; a character beyond
the first plane may come as two `\u` escapes, its surrogates, in order.
-/
import Stencil.Json.Fault

namespace Stencil.Json

open Text

-- ============================================================= writing

/-- A character as it is written between quotes. -/
def escaped (c : Char) : Text :=
  if c = '"' then ['\\', '"']
  else if c = '\\' then ['\\', '\\']
  else if c = '\x08' then ['\\', 'b']
  else if c = '\x0c' then ['\\', 'f']
  else if c = '\n' then ['\\', 'n']
  else if c = '\r' then ['\\', 'r']
  else if c = '\t' then ['\\', 't']
  else if c < ' ' then
    ['\\', 'u', '0', '0', Nat.digitChar (c.toNat / 16),
      Nat.digitChar (c.toNat % 16)]
  else [c]

/-- A string in quotes. -/
def quote (s : Text) : Text := '"' :: s.flatMap escaped ++ ['"']

-- ============================================================= reading

namespace Reader

/-- The value of a hexadecimal digit. -/
def hexDigit? (c : Char) : Option Nat :=
  if '0' ≤ c ∧ c ≤ '9' then some (c.toNat - '0'.toNat)
  else if 'a' ≤ c ∧ c ≤ 'f' then some (c.toNat - 'a'.toNat + 10)
  else if 'A' ≤ c ∧ c ≤ 'F' then some (c.toNat - 'A'.toNat + 10)
  else none

/-- The value of four hexadecimal digits. -/
def hexValue? (a b c d : Char) : Option Nat := do
  some ((((← hexDigit? a) * 16 + (← hexDigit? b)) * 16 + (← hexDigit? c))
    * 16 + (← hexDigit? d))

/-- Reads four hexadecimal digits. Four bytes are taken in any case, so
a fault lies behind them. -/
def hexUnit (t : Text) : Reading Nat :=
  if byteLength t < 4 then .error (.before [] .endInString)
  else
    match t with
    | a :: b :: c :: d :: rest =>
      match hexValue? a b c d with
      | some n => .ok (n, rest)
      | none => .error ⟨.invalidEscape, byteLength t - 4⟩
    | _ => .error ⟨.invalidEscape, byteLength t - 4⟩

/-- Whether a unit is the first of the two surrogates of a character. -/
def isLeading (unit : Nat) : Bool := 0xD800 ≤ unit && unit ≤ 0xDBFF

/-- Whether a unit is the second of the two surrogates of a character. -/
def isTrailing (unit : Nat) : Bool := 0xDC00 ≤ unit && unit ≤ 0xDFFF

/-- The character with these surrogates. -/
def surrogatePair (leading trailing : Nat) : Char :=
  Char.ofNat (0x10000 + (leading - 0xD800) * 0x400 + (trailing - 0xDC00))

/-- Reads the second surrogate, which has to follow the first one in an
escape of its own. -/
def trailingEscape (leading : Nat) : Text → Reading Char
  | [] => .error (.before [] .endInString)
  | ['\\'] => .error (.before [] .endInString)
  | '\\' :: 'u' :: t =>
    match hexUnit t with
    | .error e => .error e
    | .ok (unit, rest) =>
      if isTrailing unit then .ok (surrogatePair leading unit, rest)
      else .error (.before rest .loneSurrogate)
  | '\\' :: t => .error (.on t .hexEscapeCutShort)
  | t => .error (.on t .hexEscapeCutShort)

/-- Reads what follows the backslash of an escape. -/
def escape : Text → Reading Char
  | [] => .error (.before [] .endInString)
  | '"' :: t => .ok ('"', t)
  | '\\' :: t => .ok ('\\', t)
  | '/' :: t => .ok ('/', t)
  | 'b' :: t => .ok ('\x08', t)
  | 'f' :: t => .ok ('\x0c', t)
  | 'n' :: t => .ok ('\n', t)
  | 'r' :: t => .ok ('\r', t)
  | 't' :: t => .ok ('\t', t)
  | 'u' :: t =>
    match hexUnit t with
    | .error e => .error e
    | .ok (unit, rest) =>
      if isTrailing unit then .error (.before rest .loneSurrogate)
      else if isLeading unit then trailingEscape unit rest
      else .ok (Char.ofNat unit, rest)
  | t => .error (.on t .invalidEscape)

theorem hexUnit_shorter {t rest : Text} {n : Nat}
    (h : hexUnit t = .ok (n, rest)) : rest.length < t.length := by
  unfold hexUnit at h
  split at h
  · simp at h
  · split at h
    · split at h
      · simp only [Except.ok.injEq, Prod.mk.injEq] at h
        simp only [h.2.symm, List.length_cons]
        omega
      · simp at h
    · simp at h

theorem trailingEscape_shorter {leading : Nat} {t rest : Text} {c : Char}
    (h : trailingEscape leading t = .ok (c, rest)) :
    rest.length < t.length := by
  unfold trailingEscape at h
  split at h <;> try simp at h
  split at h
  · simp at h
  · rename_i hunit
    split at h
    · simp only [Except.ok.injEq, Prod.mk.injEq] at h
      have := hexUnit_shorter hunit
      simp only [h.2.symm, List.length_cons]
      omega
    · simp at h

theorem escape_shorter {t rest : Text} {c : Char}
    (h : escape t = .ok (c, rest)) : rest.length < t.length := by
  unfold escape at h
  split at h
  case h_1 => simp at h
  case h_10 =>
    split at h
    · simp at h
    · rename_i hunit
      have := hexUnit_shorter hunit
      split at h
      · simp at h
      · split at h
        · have := trailingEscape_shorter h
          simp only [List.length_cons]
          omega
        · simp only [Except.ok.injEq, Prod.mk.injEq] at h
          simp only [h.2.symm, List.length_cons]
          omega
  case h_11 => simp at h
  all_goals
    simp only [Except.ok.injEq, Prod.mk.injEq] at h
    simp [h.2.symm]

/-- Reads a string behind its opening quote, up to the closing one. -/
def string : Text → Reading Text
  | [] => .error (.before [] .endInString)
  | '"' :: t => .ok ([], t)
  | '\\' :: t =>
    match _escape : escape t with
    | .error e => .error e
    | .ok (c, rest) =>
      match string rest with
      | .error e => .error e
      | .ok (s, rest) => .ok (c :: s, rest)
  | c :: t =>
    if c < ' ' then .error (.before t .controlCharacter)
    else
      match string t with
      | .error e => .error e
      | .ok (s, rest) => .ok (c :: s, rest)
termination_by t => t.length
decreasing_by
  · have := escape_shorter _escape
    simp only [List.length_cons]
    omega
  · simp

end Reader

end Stencil.Json
