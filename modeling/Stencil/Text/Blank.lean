/-
White space, as the Unicode property White_Space has it, and trimming.
Zero-width characters and the separators U+001C to U+001F are not white
space.
-/
import Stencil.Text.Basic
import Stencil.Text.Ranges

namespace Stencil.Text

/-- Ranges of the property White_Space. -/
def blankRanges : List (Nat × Nat) := [
  (0x9, 0xD), (0x20, 0x20), (0x85, 0x85), (0xA0, 0xA0), (0x1680, 0x1680),
  (0x2000, 0x200A), (0x2028, 0x2029), (0x202F, 0x202F), (0x205F, 0x205F),
  (0x3000, 0x3000)
]

/-- Whether a character is white space. -/
def isBlank (c : Char) : Bool := inRanges c.toNat blankRanges

/-- What no character of the table has, no white space has. -/
theorem eq_false_of_isBlank {p : Char → Bool}
    (hall : ∀ n ∈ codePoints blankRanges, p (Char.ofNat n) = false)
    {c : Char} (h : isBlank c = true) : p c = false := by
  have hc := hall c.toNat (mem_codePoints h)
  rwa [Char.ofNat_toNat] at hc

/-- A text of nothing but white space. -/
def Blank (t : Text) : Prop := ∀ c ∈ t, isBlank c = true

theorem blank_nil : Blank [] := fun _ hc => nomatch hc

theorem Blank.not_mem {t : Text} {c : Char} (h : Blank t)
    (hc : isBlank c = false) : c ∉ t := by
  intro hmem
  rw [h c hmem] at hc
  cases hc

/-- A text without the white space in front. -/
def trimStart (t : Text) : Text := t.dropWhile isBlank

/-- A text without the white space behind. -/
def trimEnd (t : Text) : Text := (t.reverse.dropWhile isBlank).reverse

/-- A text without the white space at its two ends. -/
def trim (t : Text) : Text := trimEnd (trimStart t)

-- ============================================================ trimming

theorem trimStart_of_not_blank {c : Char} {t : Text}
    (h : isBlank c = false) : trimStart (c :: t) = c :: t := by
  simp [trimStart, h]

theorem trimEnd_append_of_not_blank {c : Char} (t : Text)
    (h : isBlank c = false) : trimEnd (t ++ [c]) = t ++ [c] := by
  simp [trimEnd, h]

/-- Nothing is trimmed off a text that ends in no white space. -/
theorem trim_eq_self {t : Text}
    (hhead : ∀ c, t.head? = some c → isBlank c = false)
    (hlast : ∀ c, t.getLast? = some c → isBlank c = false) :
    trim t = t := by
  cases t with
  | nil => rfl
  | cons c t =>
    rw [trim, trimStart_of_not_blank (hhead c rfl)]
    obtain ⟨front, d, h⟩ : ∃ front d, c :: t = front ++ [d] :=
      ⟨_, _, (List.dropLast_concat_getLast (by simp)).symm⟩
    rw [h, trimEnd_append_of_not_blank front (hlast d (by simp [h]))]

/-- Nothing is trimmed off a text without white space. -/
theorem trim_of_no_blank {t : Text} (h : ∀ c ∈ t, isBlank c = false) :
    trim t = t :=
  trim_eq_self (fun c hc => h c (List.mem_of_head? hc))
    (fun c hc => h c (List.mem_of_getLast? hc))

/-- White space in front of a text makes no difference to it trimmed. -/
theorem trim_blank_append {b : Text} (t : Text)
    (h : ∀ c ∈ b, isBlank c = true) : trim (b ++ t) = trim t := by
  rw [trim, trim, trimStart, trimStart, List.dropWhile_append_of_pos h]

/-- White space behind a text makes no difference to it trimmed. -/
theorem trim_append_blank {b : Text} (t : Text) (h : Blank b) :
    trim (t ++ b) = trim t := by
  have hreverse : ∀ c ∈ b.reverse, isBlank c = true :=
    fun c hc => h c (List.mem_reverse.1 hc)
  have hend : ∀ front : Text, trimEnd (front ++ b) = trimEnd front := by
    intro front
    rw [trimEnd, List.reverse_append, List.dropWhile_append_of_pos hreverse]
    rfl
  rw [trim, trim, trimStart, List.dropWhile_append]
  split
  · -- nothing but white space, in which nothing is left either way
    next hnone =>
    have hb := hend []
    rw [List.nil_append] at hb
    rw [trimStart, List.isEmpty_iff.1 hnone, ← hb,
      ← List.append_nil b, List.dropWhile_append_of_pos h, List.append_nil,
      hb]
    rfl
  · exact hend (trimStart t)

/-- A text is itself trimmed, with the white space at its two ends. -/
theorem exists_eq_trim (t : Text) :
    ∃ before after, Blank before ∧ Blank after
      ∧ t = before ++ trim t ++ after := by
  refine ⟨t.takeWhile isBlank,
    ((trimStart t).reverse.takeWhile isBlank).reverse,
    List.all_eq_true.1 List.all_takeWhile,
    fun c hc => List.all_eq_true.1 List.all_takeWhile c
      (List.mem_reverse.1 hc), ?_⟩
  have hend : trim t ++ ((trimStart t).reverse.takeWhile isBlank).reverse
      = trimStart t := by
    rw [trim, trimEnd, ← List.reverse_append,
      List.takeWhile_append_dropWhile, List.reverse_reverse]
  rw [List.append_assoc, hend, trimStart, List.takeWhile_append_dropWhile]

/-- Trimming takes off all there is to take off. -/
theorem trim_trim (t : Text) : trim (trim t) = trim t := by
  obtain ⟨before, after, hbefore, hafter, ht⟩ := exists_eq_trim t
  calc trim (trim t) = trim (trim t ++ after) :=
        (trim_append_blank (trim t) hafter).symm
    _ = trim (before ++ (trim t ++ after)) :=
        (trim_blank_append _ hbefore).symm
    _ = trim t := by rw [← List.append_assoc, ← ht]

/-- White space around a text is what trimming takes off. -/
theorem trim_surrounded {before t after : Text} (hbefore : Blank before)
    (hafter : Blank after) : trim (before ++ t ++ after) = trim t := by
  rw [trim_append_blank _ hafter, trim_blank_append t hbefore]

end Stencil.Text
