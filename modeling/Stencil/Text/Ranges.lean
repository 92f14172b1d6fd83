/-
Tables of code points. A property of characters that a standard gives by
a table is kept as the ascending list of its ranges, each by its first
and its last code point, and `inRanges` looks a code point up. The search
stops at the first range that begins behind the code point, so characters
near the front of a table are settled at once.
-/

namespace Stencil.Text

/-- Whether one of the ranges, which ascend, holds the code point. -/
def inRanges (n : Nat) : List (Nat × Nat) → Bool
  | [] => false
  | (first, last) :: rest =>
    if n < first then false
    else if n ≤ last then true
    else inRanges n rest

/-- Whatever the table, a code point that is found lies in a range of it. -/
theorem exists_of_inRanges {n : Nat} {table : List (Nat × Nat)}
    (h : inRanges n table = true) :
    ∃ range ∈ table, range.1 ≤ n ∧ n ≤ range.2 := by
  induction table with
  | nil => simp [inRanges] at h
  | cons range rest ih =>
    obtain ⟨first, last⟩ := range
    simp only [inRanges] at h
    split at h
    · simp at h
    · split at h
      · exact ⟨(first, last), by simp, by simp; omega, by simp; omega⟩
      · obtain ⟨r, hr, hn⟩ := ih h
        exact ⟨r, by simp [hr], hn⟩

/-- The code points that a table holds. -/
def codePoints (table : List (Nat × Nat)) : List Nat :=
  table.flatMap fun range => List.range' range.1 (range.2 + 1 - range.1)

theorem mem_codePoints {n : Nat} {table : List (Nat × Nat)}
    (h : inRanges n table = true) : n ∈ codePoints table := by
  obtain ⟨range, hrange, hfirst, hlast⟩ := exists_of_inRanges h
  exact List.mem_flatMap.2 ⟨range, hrange, List.mem_range'_1.2 (by omega)⟩

end Stencil.Text
