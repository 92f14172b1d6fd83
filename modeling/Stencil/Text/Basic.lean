/-
Texts, and the measure in which positions in them are given.

A text is the list of its characters, so that everything the library
says about templates, data and messages is said about lists. Positions
are counted in the bytes of the UTF-8 form: `byteLength` measures a text
so, and `slice` cuts one between two byte positions. The lemmas say that
the measure adds up over `++` and that a cut between two parts of a text
gives back the parts.
-/

namespace Stencil

/-- A text is the list of its characters. -/
abbrev Text := List Char

/-- A string literal stands for the text of its characters. -/
instance : Coe String Text := ⟨String.toList⟩

namespace Text

/-- The texts of a list, one after the other. -/
def join (parts : List Text) : Text := parts.flatten

/-- The texts of a list with `separator` between each two. -/
def joinWith (separator : Text) (parts : List Text) : Text :=
  separator.intercalate parts

/-- A natural number in decimal digits. -/
def ofNat (n : Nat) : Text := Nat.toDigits 10 n

/-- A whole number in decimal digits, with `-` in front when negative. -/
def ofInt : Int → Text
  | .ofNat n => ofNat n
  | .negSucc n => '-' :: ofNat (n + 1)

-- ===================================================== byte positions

/-- How many bytes the UTF-8 form of a text takes. -/
def byteLength : Text → Nat
  | [] => 0
  | c :: t => c.utf8Size + byteLength t

/-- What is left of a text after its first `n` bytes. -/
def dropBytes : Nat → Text → Text
  | _, [] => []
  | 0, c :: t => c :: t
  | n + 1, c :: t => dropBytes (n + 1 - c.utf8Size) t

/-- The first `n` bytes of a text. -/
def takeBytes : Nat → Text → Text
  | _, [] => []
  | 0, _ :: _ => []
  | n + 1, c :: t => c :: takeBytes (n + 1 - c.utf8Size) t

end Text

/-- A range of byte positions, `stop` itself excluded. -/
structure Span where
  start : Nat
  stop : Nat
deriving DecidableEq, Repr

/-- The part of a text that a span covers. -/
def Text.slice (span : Span) (t : Text) : Text :=
  takeBytes (span.stop - span.start) (dropBytes span.start t)

namespace Text

@[simp] theorem byteLength_nil : byteLength [] = 0 := rfl

@[simp] theorem byteLength_cons (c : Char) (t : Text) :
    byteLength (c :: t) = c.utf8Size + byteLength t := rfl

@[simp] theorem byteLength_append (a b : Text) :
    byteLength (a ++ b) = byteLength a + byteLength b := by
  induction a with
  | nil => simp
  | cons c a ih => simp [ih, Nat.add_assoc]

theorem byteLength_pos {t : Text} (h : t ≠ []) : 0 < byteLength t := by
  obtain ⟨c, t, rfl⟩ := List.exists_cons_of_ne_nil h
  have hc := c.utf8Size_pos
  simp only [byteLength_cons]
  omega

theorem dropBytes_byteLength (a b : Text) :
    dropBytes (byteLength a) (a ++ b) = b := by
  induction a with
  | nil => cases b <;> rfl
  | cons c a ih =>
    have hc := c.utf8Size_pos
    obtain ⟨n, hn⟩ : ∃ n, byteLength (c :: a) = n + 1 :=
      ⟨byteLength (c :: a) - 1, by simp; omega⟩
    rw [hn, List.cons_append, dropBytes, ← hn, byteLength_cons,
      Nat.add_sub_cancel_left, ih]

theorem takeBytes_byteLength (a b : Text) :
    takeBytes (byteLength a) (a ++ b) = a := by
  induction a with
  | nil => cases b <;> rfl
  | cons c a ih =>
    have hc := c.utf8Size_pos
    obtain ⟨n, hn⟩ : ∃ n, byteLength (c :: a) = n + 1 :=
      ⟨byteLength (c :: a) - 1, by simp; omega⟩
    rw [hn, List.cons_append, takeBytes, ← hn, byteLength_cons,
      Nat.add_sub_cancel_left, ih]

/-- Cutting out the middle one of three parts gives that part. -/
theorem slice_middle (a b c : Text) :
    slice ⟨byteLength a, byteLength a + byteLength b⟩ (a ++ (b ++ c))
      = b := by
  rw [slice, dropBytes_byteLength]
  simp [takeBytes_byteLength]

end Text

end Stencil
