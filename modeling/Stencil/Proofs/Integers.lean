/-
Integers of 64 bits, read exactly.

An integer is read off the front of a text as an optional `-` and all
decimal digits behind it. What it is worth is said by places: each digit
counts for as many tens as digits come behind it (`signedValue`), so
zeros in front are worth nothing and may be as many as one likes. Reading
answers this number if it has 64 bits, both ends included; it fails with
one error if the number has more, and with another if there is no digit.

# Adding up within 64 bits

A machine that has 64 bits and no more takes up the digits one by one and
has to notice when they get too many (`readInt64?`). It can neither go
round at the ends nor give up too early: a number only grows by what is
put behind it, so one that does not fit will never fit again
(`push?_eq` for a digit, `foldlM_push?_eq` for all of them). Below zero
the digits are taken off, since there is one more number there than
above.

# The argument

What is passed is the longest front part that could belong to a number,
and it has a value if there is a digit in it (`integer_cases`); that
value is the one by places (`Path.Numeral.eq_signedValue`). A printed
number is the longest such part of itself and what comes behind it, if
that is no digit (`Path.Numeral.longest`), so it is read back.

Main statement: `integer_exact`.
-/
import Mathlib.Tactic.Ring
import Stencil.Proofs.Courses

namespace Stencil

open Text

-- ================================================ statement vocabulary

/-- What a decimal digit is worth by itself. -/
def digitValue (d : Char) : Nat := d.toNat - '0'.toNat

/-- What decimal digits are worth, each at its place. -/
def placeValue : Text → Nat
  | [] => 0
  | d :: digits => digitValue d * 10 ^ digits.length + placeValue digits

/-- The number that digits with or without a sign stand for. -/
def signedValue : Text → Int
  | '-' :: digits => -placeValue digits
  | digits => placeValue digits

/-- A number, if it has 64 bits. -/
def int64? (i : Int) : Option Int64 :=
  if isInt64 i then some (Int64.ofInt i) else none

/-- Puts a digit behind a number of 64 bits: ten times the number, and the
digit added to it or, below zero, taken off. Neither may leave the 64
bits. -/
def push? (negative : Bool) (n : Int64) (d : Char) : Option Int64 := do
  let tens ← int64? (n.toInt * 10)
  int64? (if negative then tens.toInt - digitValue d
    else tens.toInt + digitValue d)

/-- Reads digits with or without a sign, one after the other, within 64
bits. -/
def readInt64? : Text → Option Int64
  | '-' :: digits => digits.foldlM (push? true) 0
  | digits => digits.foldlM (push? false) 0

namespace Cursor

/-- Reading an integer fails in these words. -/
def IntegerFails (c : Cursor) (words : Text) : Prop :=
  ∃ e, c.integer.1 = .error e ∧ e.message = words

/-- How an integer is read where `numeral` is all that could belong to one
and `behind` comes after it. -/
structure ReadsInteger (c : Cursor) (numeral behind : Text) : Prop where
  text_eq : c.rest = numeral ++ behind
  longest : Longest SignedDigits c.rest numeral
  after_eq : c.integer.2 = c.past numeral behind
  fails_iff_no_digit : c.IntegerFails "expected integer"
    ↔ ∀ d ∈ numeral, d.isDigit = false
  reads_iff : ∀ i, c.integer.1 = .ok i
    ↔ (∃ d ∈ numeral, d.isDigit = true) ∧ i = signedValue numeral
      ∧ -2 ^ 63 ≤ i ∧ i ≤ 2 ^ 63 - 1
  fails_iff_too_large : c.IntegerFails "bad integer"
    ↔ (∃ d ∈ numeral, d.isDigit = true)
      ∧ ¬ (-2 ^ 63 ≤ signedValue numeral ∧ signedValue numeral ≤ 2 ^ 63 - 1)

end Cursor

-- ========================================================= place values

/-- Taking up digits from the left comes to their places. -/
theorem ofDigitChars_eq_placeValue (digits : Text) :
    Nat.ofDigitChars 10 digits 0 = placeValue digits := by
  induction digits with
  | nil => rfl
  | cons d digits ih =>
    rw [Nat.ofDigitChars_cons, Nat.ofDigitChars_eq_ofDigitChars_zero, ih,
      placeValue, digitValue]
    ring

/-- Digits without a sign stand for what they are worth. -/
theorem signedValue_of_digits {digits : Text}
    (hdigits : ∀ c ∈ digits, c.isDigit = true) :
    signedValue digits = placeValue digits := by
  unfold signedValue
  split
  · exact absurd (hdigits '-' (List.mem_cons_self ..)) (by decide)
  · rfl

/-- A sign is seen by the first character. -/
theorem splitSign_append_of_ne_nil {a b : Text} (h : a ≠ []) :
    splitSign (a ++ b) = ((splitSign a).1, (splitSign a).2 ++ b) := by
  obtain ⟨x, a, rfl⟩ := List.exists_cons_of_ne_nil h
  rcases Path.splitSign_cases (x :: a) with ⟨body, hbody, hsplit⟩ | hsplit
  · cases hbody
    rfl
  · rcases Path.splitSign_cases (x :: a ++ b) with
      ⟨body, hbody, -⟩ | hsplit'
    · cases hbody
      cases hsplit
    · rw [hsplit, hsplit']

namespace Path.Numeral

variable {numeral : Text} {i : Int}

theorem ne_nil (h : Numeral numeral i) : numeral ≠ [] := by
  cases h with
  | plain hne => exact hne
  | minus => exact List.cons_ne_nil _ _

/-- A numeral is worth what its digits are worth at their places. -/
theorem eq_signedValue (h : Numeral numeral i) : i = signedValue numeral := by
  cases h with
  | plain _ hdigits =>
    rw [signedValue_of_digits hdigits, ofDigitChars_eq_placeValue]
  | minus _ _ => rw [signedValue, ofDigitChars_eq_placeValue]

theorem exists_digit (h : Numeral numeral i) :
    ∃ d ∈ numeral, d.isDigit = true := by
  cases h with
  | plain hne hdigits =>
    obtain ⟨d, hd⟩ := List.exists_mem_of_ne_nil _ hne
    exact ⟨d, hd, hdigits d hd⟩
  | minus hne hdigits =>
    obtain ⟨d, hd⟩ := List.exists_mem_of_ne_nil _ hne
    exact ⟨d, List.mem_cons_of_mem _ hd, hdigits d hd⟩

/-- Where no digit comes behind a numeral, no more than it could belong to
the number. -/
theorem longest (h : Numeral numeral i) {behind : Text}
    (hbehind : ∀ d, behind.head? = some d → d.isDigit = false) :
    Longest SignedDigits (numeral ++ behind) numeral := by
  obtain ⟨sign, digits, hsplit, -, hdigits, -⟩ := h.splitSign
  have happend := Cursor.splitSign_append numeral
  have hlongest := longest_signedDigits (numeral ++ behind)
  rw [splitSign_append_of_ne_nil h.ne_nil, hsplit] at hlongest
  simp only [takeWhile_append_stop hdigits hbehind] at hlongest
  rw [hsplit] at happend
  rwa [happend] at hlongest

end Path.Numeral

-- ============================================== adding up within 64 bits

/-- A number from its size, below zero or not. -/
def signed (negative : Bool) (size : Nat) : Int :=
  if negative then -size else size

/-- The largest size of a number of 64 bits. -/
def largestSize (negative : Bool) : Nat :=
  if negative then 2 ^ 63 else 2 ^ 63 - 1

theorem isInt64_iff_two_pow (i : Int) :
    isInt64 i = true ↔ -2 ^ 63 ≤ i ∧ i ≤ 2 ^ 63 - 1 := by
  rw [Path.isInt64_iff, Path.IndexRange]
  norm_num

theorem isInt64_signed_iff (negative : Bool) (size : Nat) :
    isInt64 (signed negative size) = true ↔ size ≤ largestSize negative := by
  rw [isInt64_iff_two_pow]
  cases negative
  · show -2 ^ 63 ≤ (size : Int) ∧ (size : Int) ≤ 2 ^ 63 - 1
      ↔ size ≤ 2 ^ 63 - 1
    omega
  · show -2 ^ 63 ≤ -(size : Int) ∧ -(size : Int) ≤ 2 ^ 63 - 1
      ↔ size ≤ 2 ^ 63
    omega

theorem int64?_eq_none_iff (i : Int) :
    int64? i = none ↔ ¬ isInt64 i = true := by
  unfold int64?
  split <;> simp [*]

theorem int64?_eq_some_iff (i : Int) (n : Int64) :
    int64? i = some n ↔ n.toInt = i := by
  unfold int64?
  constructor
  · intro h
    split at h
    · next hi =>
      cases h
      obtain ⟨hlow, hhigh⟩ := (isInt64_iff_two_pow i).1 hi
      exact Int64.toInt_ofInt_of_le hlow (Int.lt_of_le_sub_one hhigh)
    · cases h
  · rintro rfl
    have hfits := (isInt64_iff_two_pow n.toInt).2
      ⟨n.le_toInt, Int.le_sub_one_of_lt n.toInt_lt⟩
    rw [if_pos hfits, Int64.ofInt_toInt]

/-- What does not fit will not fit when it has grown. -/
theorem int64?_of_le {negative : Bool} {a b : Nat} (h : a ≤ b)
    (ha : int64? (signed negative a) = none) :
    int64? (signed negative b) = none := by
  rw [int64?_eq_none_iff, isInt64_signed_iff] at ha ⊢
  omega

section AddingUp

variable {negative : Bool} {n : Int64} {size : Nat}

/-- A digit makes ten times the size and what it is worth, if that
fits. -/
theorem push?_eq (hn : n.toInt = signed negative size) (d : Char) :
    push? negative n d
      = int64? (signed negative (size * 10 + digitValue d)) := by
  have htens : n.toInt * 10 = signed negative (size * 10) := by
    rw [hn]
    cases negative <;> simp [signed]
  rw [push?, htens]
  cases hfits : int64? (signed negative (size * 10)) with
  | none =>
    rw [int64?_of_le (Nat.le_add_right ..) hfits]
    rfl
  | some tens =>
    have hnext : (if negative then tens.toInt - digitValue d
        else tens.toInt + digitValue d)
        = signed negative (size * 10 + digitValue d) := by
      rw [(int64?_eq_some_iff ..).1 hfits]
      cases negative with
      | false => simp [signed]
      | true => simp [signed]; omega
    rw [← hnext]
    rfl

/-- Digits make the size grow by as many places and by what they are
worth, if that fits. -/
theorem foldlM_push?_eq (hn : n.toInt = signed negative size)
    (digits : Text) :
    digits.foldlM (push? negative) n
      = int64? (signed negative
          (size * 10 ^ digits.length + placeValue digits)) := by
  induction digits generalizing n size with
  | nil =>
    have hsize : size * 10 ^ ([] : Text).length + placeValue [] = size := by
      simp [placeValue]
    rw [hsize, (int64?_eq_some_iff ..).2 hn]
    rfl
  | cons d digits ih =>
    have hsize : size * 10 ^ (d :: digits).length + placeValue (d :: digits)
        = (size * 10 + digitValue d) * 10 ^ digits.length
          + placeValue digits := by
      rw [List.length_cons, placeValue]
      ring
    rw [List.foldlM_cons, push?_eq hn, hsize]
    cases hfits : int64? (signed negative (size * 10 + digitValue d)) with
    | none =>
      -- given up at this digit; the digits left only make it larger
      have hgrown : size * 10 + digitValue d
          ≤ (size * 10 + digitValue d) * 10 ^ digits.length
            + placeValue digits :=
        Nat.le_add_right_of_le
          (Nat.le_mul_of_pos_right _ (Nat.pow_pos (by decide)))
      rw [int64?_of_le hgrown hfits]
      rfl
    | some next => exact ih ((int64?_eq_some_iff ..).1 hfits)

end AddingUp

/-- Adding up within 64 bits comes to the number by places, if that has 64
bits, and to nothing otherwise. -/
theorem readInt64?_eq (t : Text) : readInt64? t = int64? (signedValue t) := by
  have hzero : ∀ negative, (0 : Int64).toInt = signed negative 0 := by decide
  unfold readInt64? signedValue
  split
  · rw [foldlM_push?_eq (hzero true), Nat.zero_mul, Nat.zero_add]
    rfl
  · rw [foldlM_push?_eq (hzero false), Nat.zero_mul, Nat.zero_add]
    rfl

theorem map_readInt64?_eq_some_iff (t : Text) (i : Int) :
    (readInt64? t).map Int64.toInt = some i
      ↔ i = signedValue t ∧ -2 ^ 63 ≤ i ∧ i ≤ 2 ^ 63 - 1 := by
  rw [readInt64?_eq]
  constructor
  · intro h
    obtain ⟨n, hn, rfl⟩ := Option.map_eq_some_iff.1 h
    exact ⟨(int64?_eq_some_iff ..).1 hn, n.le_toInt,
      Int.le_sub_one_of_lt n.toInt_lt⟩
  · rintro ⟨rfl, hlow, hhigh⟩
    have hn := Int64.toInt_ofInt_of_le hlow (Int.lt_of_le_sub_one hhigh)
    rw [(int64?_eq_some_iff ..).2 hn, Option.map_some, hn]

-- =============================================================== reading

namespace Cursor

theorem integerFails_of_error {c : Cursor} {e : SyntaxError}
    (h : c.integer.1 = .error e) (words : Text) :
    c.IntegerFails words ↔ e.message = words := by
  simp [IntegerFails, h]

theorem not_integerFails_of_ok {c : Cursor} {i : Int}
    (h : c.integer.1 = .ok i) (words : Text) : ¬ c.IntegerFails words := by
  simp [IntegerFails, h]

variable {c : Cursor} {numeral behind : Text} {i : Int}

/-- Without a digit there is no integer. -/
theorem readsInteger_of_no_digit (hrest : c.rest = numeral ++ behind)
    (hlongest : Longest SignedDigits c.rest numeral)
    (hnone : ∀ i, ¬ Path.Numeral numeral i)
    (h : c.integer = (.error .integerExpected, c.past numeral behind)) :
    c.ReadsInteger numeral behind := by
  have hno : ¬ ∃ d ∈ numeral, d.isDigit = true := by
    rintro ⟨d, hd, hdigit⟩
    obtain ⟨i, hi⟩ := Path.exists_numeral hlongest.fits hd hdigit
    exact hnone i hi
  have herror : c.integer.1 = .error .integerExpected := by rw [h]
  refine ⟨hrest, hlongest, by rw [h], ?_, fun i => ?_, ?_⟩
  · rw [integerFails_of_error herror]
    refine iff_of_true rfl fun d hd => ?_
    by_contra hdigit
    exact hno ⟨d, hd, by simpa using hdigit⟩
  · rw [herror]
    exact iff_of_false nofun fun hi => hno hi.1
  · rw [integerFails_of_error herror]
    exact iff_of_false (by decide) fun hi => hno hi.1

/-- With digits there is one, unless it is too large. -/
theorem readsInteger_of_numeral (hrest : c.rest = numeral ++ behind)
    (hlongest : Longest SignedDigits c.rest numeral)
    (hnumeral : Path.Numeral numeral i)
    (h : c.integer
      = (if isInt64 i then .ok i else .error .integerTooLarge,
        c.past numeral behind)) :
    c.ReadsInteger numeral behind := by
  have hdigit := hnumeral.exists_digit
  have hdigits : ¬ ∀ d ∈ numeral, d.isDigit = false := by
    obtain ⟨d, hd, hdigit⟩ := hdigit
    intro hnone
    rw [hnone d hd] at hdigit
    cases hdigit
  obtain rfl := hnumeral.eq_signedValue
  by_cases hfits : isInt64 (signedValue numeral) = true
  · have hok : c.integer.1 = .ok (signedValue numeral) := by
      rw [h, if_pos hfits]
    rw [isInt64_iff_two_pow] at hfits
    refine ⟨hrest, hlongest, by rw [h], ?_, fun i => ?_, ?_⟩
    · exact iff_of_false (not_integerFails_of_ok hok _) hdigits
    · rw [hok, Except.ok.injEq]
      constructor
      · rintro rfl
        exact ⟨hdigit, rfl, hfits⟩
      · exact fun hi => hi.2.1.symm
    · exact iff_of_false (not_integerFails_of_ok hok _)
        fun hi => hi.2 hfits
  · have herror : c.integer.1 = .error .integerTooLarge := by
      rw [h, if_neg hfits]
    rw [isInt64_iff_two_pow] at hfits
    refine ⟨hrest, hlongest, by rw [h], ?_, fun i => ?_, ?_⟩
    · rw [integerFails_of_error herror]
      exact iff_of_false (by decide) hdigits
    · rw [herror]
      refine iff_of_false nofun ?_
      rintro ⟨-, rfl, hi⟩
      exact hfits hi
    · rw [integerFails_of_error herror]
      exact iff_of_true rfl ⟨hdigit, hfits⟩

theorem exists_readsInteger (c : Cursor) :
    ∃ numeral behind, c.ReadsInteger numeral behind := by
  obtain ⟨numeral, behind, hrest, hlongest, ⟨hnone, h⟩ | ⟨i, hnumeral, h⟩⟩ :=
    c.integer_cases
  · exact ⟨_, _, readsInteger_of_no_digit hrest hlongest hnone h⟩
  · exact ⟨_, _, readsInteger_of_numeral hrest hlongest hnumeral h⟩

/-- An integer is read exactly. What belongs to it is passed; it is an
error if there is no digit, and another if the number has more than 64
bits, and otherwise the number is answered, which adding up within 64
bits comes to as well. So each number of 64 bits is read back from its
digits, whatever comes behind them but a digit. -/
theorem integer_exact (c : Cursor) :
    (∃ numeral behind, c.ReadsInteger numeral behind
        ∧ ∀ i, c.integer.1 = .ok i
          ↔ (∃ d ∈ numeral, d.isDigit = true)
            ∧ (readInt64? numeral).map Int64.toInt = some i)
      ∧ ∀ (n : Int64) (behind : Text), c.rest = ofInt n.toInt ++ behind →
        (∀ d, behind.head? = some d → d.isDigit = false) →
        c.integer = (.ok n.toInt, c.past (ofInt n.toInt) behind) := by
  obtain ⟨numeral, behind, h⟩ := c.exists_readsInteger
  refine ⟨⟨numeral, behind, h, fun i => ?_⟩, fun n t hrest ht => ?_⟩
  · rw [h.reads_iff, map_readInt64?_eq_some_iff]
  · have hprinted := Path.numeral_ofInt n.toInt
    have hlongest := hprinted.longest ht
    rw [← hrest] at hlongest
    obtain rfl := h.longest.unique hlongest
    obtain rfl : behind = t :=
      List.append_cancel_left (h.text_eq.symm.trans hrest)
    have hok : c.integer.1 = .ok n.toInt :=
      (h.reads_iff n.toInt).2 ⟨hprinted.exists_digit,
        hprinted.eq_signedValue, n.le_toInt, Int.le_sub_one_of_lt n.toInt_lt⟩
    exact Prod.ext hok h.after_eq

/-- The least number is read back in front of a bracket. -/
theorem integer_exact_least :
    let c : Cursor := ⟨2, "-9223372036854775808]".toList⟩
    c.rest = ofInt Int64.minValue.toInt ++ [']']
      ∧ (∀ d, [']'].head? = some d → d.isDigit = false)
      ∧ c.integer = (.ok (-2 ^ 63), ⟨22, [']']⟩) := by
  intro c
  have hrest : c.rest = ofInt Int64.minValue.toInt ++ [']'] := by
    decide +kernel
  have hbehind : ∀ d, [']'].head? = some d → d.isDigit = false := by
    intro d hd
    cases hd
    decide
  have h := (integer_exact c).2 Int64.minValue [']'] hrest hbehind
  exact ⟨hrest, hbehind, h⟩

end Cursor

-- Zeros in front are no matter, and the first number that does not fit is
-- passed to its end.
example :
    (Cursor.start "-00009223372036854775808x".toList).integer
        = (.ok (-2 ^ 63), ⟨24, ['x']⟩)
      ∧ (Cursor.start "9223372036854775808x".toList).integer
        = (.error .integerTooLarge, ⟨19, ['x']⟩) := by
  decide +kernel

end Stencil
