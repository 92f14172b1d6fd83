/-
Cutting a text at each `??` and joining the pieces again.

Joining undoes cutting (`joinWith_cut`). Cutting undoes joining only for
pieces between which a cut is found where they were joined, and nowhere
else: no `??` in a piece, and no `?` at the end of one that another piece
follows (`Separate`). The pieces of a cut are such pieces, and they stay
so when any of them are exchanged for texts without `?`
(`Separate.exchange`). This is what lets alternatives be exchanged in the
text of a chain.

White space at the two ends of a chain goes to its outer pieces, where
reading an alternative leaves it out (`parse_trim`).

Main statements: `joinWith_cut`, `cut_joinWith` and `parse_trim`.
-/
import Mathlib.Data.List.Forall2
import Stencil.Proofs.Coalescing

namespace Stencil

open Text

-- ================================================ statement vocabulary

/-- What stands between two alternatives of a chain. -/
abbrev coalescing : Text := ['?', '?']

namespace Expression

/-- Pieces that are found again when they are joined and cut. -/
inductive Separate : List Text → Prop where
  | last {piece : Text} : ¬ coalescing <:+: piece → Separate [piece]
  | cons {piece : Text} {pieces : List Text} : ¬ coalescing <:+: piece →
      trailingMarks piece = 0 → Separate pieces → Separate (piece :: pieces)

-- ================================================================ joining

theorem joinWith_singleton (piece : Text) :
    joinWith coalescing [piece] = piece := by
  simp [joinWith]

theorem joinWith_cons (piece : Text) {pieces : List Text}
    (h : pieces ≠ []) :
    joinWith coalescing (piece :: pieces)
      = piece ++ coalescing ++ joinWith coalescing pieces := by
  obtain ⟨next, rest, rfl⟩ := List.exists_cons_of_ne_nil h
  exact List.intercalate_cons_cons

/-- A character in front of the first piece is one in front of all. -/
theorem joinWith_cons_cons (c : Char) (piece : Text) (pieces : List Text) :
    joinWith coalescing ((c :: piece) :: pieces)
      = c :: joinWith coalescing (piece :: pieces) := by
  cases pieces with
  | nil => rw [joinWith_singleton, joinWith_singleton]
  | cons next rest =>
    rw [joinWith_cons _ (List.cons_ne_nil next rest),
      joinWith_cons _ (List.cons_ne_nil next rest)]
    rfl

/-- The pieces of a text, joined, are the text. -/
theorem joinWith_cut (t : Text) : joinWith coalescing (cut t) = t := by
  fun_induction cut t with
  | case1 => rfl
  | case2 t ih =>
    rw [joinWith_cons _ (cut_ne_nil t), ih]
    rfl
  | case3 c t hpair hnil ih => exact absurd hnil (cut_ne_nil t)
  | case4 c t hpair piece pieces hcut ih =>
    rw [joinWith_cons_cons, ← hcut, ih]

/-- Joining brings in nothing but `?`. -/
theorem not_mem_joinWith {d : Char} {pieces : List Text} (hd : d ≠ '?')
    (h : ∀ piece ∈ pieces, d ∉ piece) : d ∉ joinWith coalescing pieces := by
  induction pieces with
  | nil => exact List.not_mem_nil
  | cons piece pieces ih =>
    have hpiece := h piece (List.mem_cons_self ..)
    cases pieces with
    | nil => rwa [joinWith_singleton]
    | cons next rest =>
      have hrest := ih fun other hother =>
        h other (List.mem_cons_of_mem _ hother)
      rw [joinWith_cons _ (List.cons_ne_nil next rest)]
      simp only [List.mem_append, List.mem_cons, List.not_mem_nil, hd,
        or_false, not_or]
      exact ⟨hpiece, hrest⟩

/-- Joining leaves nothing out. -/
theorem subset_joinWith {piece : Text} {pieces : List Text}
    (h : piece ∈ pieces) : piece ⊆ joinWith coalescing pieces := by
  induction pieces with
  | nil => cases h
  | cons first pieces ih =>
    cases pieces with
    | nil =>
      rw [List.mem_singleton.1 h, joinWith_singleton]
      exact List.Subset.refl first
    | cons next rest =>
      rw [joinWith_cons _ (List.cons_ne_nil next rest), List.append_assoc]
      rcases List.mem_cons.1 h with rfl | h
      · exact List.subset_append_left piece _
      · exact List.subset_append_of_subset_right _
          (List.subset_append_of_subset_right _ (ih h))

-- ================================================================ cutting

/-- A character that starts no `??` goes to the first piece. -/
theorem cut_cons {c : Char} {t piece : Text} {pieces : List Text}
    (hpair : ∀ t', c = '?' → t ≠ '?' :: t') (hcut : cut t = piece :: pieces) :
    cut (c :: t) = (c :: piece) :: pieces := by
  rw [cut.eq_3 c t hpair, hcut]

/-- A text without `??` is one piece. -/
theorem cut_of_no_pair {t : Text} (h : ¬ coalescing <:+: t) :
    cut t = [t] := by
  induction t with
  | nil => rfl
  | cons c t ih =>
    refine cut_cons ?_ (ih fun ht => h (List.infix_cons ht))
    rintro t' rfl rfl
    exact h ⟨[], t', rfl⟩

theorem no_pair_of_no_mark {t : Text} (h : '?' ∉ t) :
    ¬ coalescing <:+: t :=
  fun hpair => h (hpair.subset (by simp))

theorem trailingMarks_of_no_mark {t : Text} (h : '?' ∉ t) :
    trailingMarks t = 0 := by
  cases hreverse : t.reverse with
  | nil => rw [trailingMarks, hreverse]; rfl
  | cons c rest =>
    have hc : c ≠ '?' := by
      rintro rfl
      exact h (List.mem_reverse.1 (hreverse ▸ List.mem_cons_self ..))
    rw [trailingMarks, hreverse]
    simp [hc]

theorem Separate.ne_nil {pieces : List Text} (h : Separate pieces) :
    pieces ≠ [] := by
  cases h <;> simp

/-- Separate pieces are the pieces of the text they are joined to. -/
theorem cut_joinWith {pieces : List Text} (h : Separate pieces) :
    cut (joinWith coalescing pieces) = pieces := by
  induction h with
  | last hpiece => rw [joinWith_singleton, cut_of_no_pair hpiece]
  | @cons piece pieces hpiece hmarks hrest ih =>
    rw [joinWith_cons _ hrest.ne_nil, cut_append _ (by rw [hmarks]), ih,
      cut_of_no_pair hpiece, List.singleton_append]

/-- A text starts like the first of its pieces. -/
theorem exists_eq_append_of_cut {t piece : Text} {pieces : List Text}
    (h : cut t = piece :: pieces) :
    ∃ rest, t = piece ++ rest ∧ (pieces ≠ [] → coalescing <+: rest) := by
  have ht := joinWith_cut t
  rw [h] at ht
  cases pieces with
  | nil =>
    rw [joinWith_singleton] at ht
    exact ⟨[], by rw [ht, List.append_nil], fun h => absurd rfl h⟩
  | cons next pieces =>
    rw [joinWith_cons _ (List.cons_ne_nil next pieces),
      List.append_assoc] at ht
    exact ⟨_, ht.symm, fun _ => List.prefix_append ..⟩

/-- Cutting gives separate pieces. -/
theorem separate_cut (t : Text) : Separate (cut t) := by
  fun_induction cut t with
  | case1 => exact .last (by simp)
  | case2 t ih => exact .cons (by simp) rfl ih
  | case3 c t hpair hnil ih => exact absurd hnil (cut_ne_nil t)
  | case4 c t hpair piece pieces hcut ih =>
    rw [hcut] at ih
    obtain ⟨rest, ht, hrest⟩ := exists_eq_append_of_cut hcut
    -- a `??` at the front of the longer piece would start at `c`
    have hpiece : ¬ coalescing <:+: piece → ¬ coalescing <:+: c :: piece := by
      intro hno hpiece
      rcases List.infix_cons_iff.1 hpiece with ⟨tail, hfront⟩ | hpiece
      · injection hfront with hc hpiece
        exact hpair (tail ++ rest) hc.symm (by rw [ht, ← hpiece]; rfl)
      · exact hno hpiece
    cases ih with
    | last hno => exact .last (hpiece hno)
    | cons hno hmarks hpieces =>
      refine .cons (hpiece hno) ?_ hpieces
      rw [trailingMarks_cons, if_neg, hmarks]
      rintro ⟨hlength, hc⟩
      -- the piece would be empty and the next one start behind `c?`
      have hempty : piece = [] := by
        rw [hmarks] at hlength
        exact List.length_eq_zero_iff.1 hlength.symm
      obtain ⟨tail, hrest⟩ := hrest hpieces.ne_nil
      exact hpair ('?' :: tail) hc (by rw [ht, hempty, ← hrest]; rfl)

/-- Pieces exchanged for texts without `?` leave all pieces separate. -/
theorem Separate.exchange {pieces pieces' : List Text}
    (h : Separate pieces)
    (hpieces : List.Forall₂ (fun piece piece' => piece' = piece ∨ '?' ∉ piece')
      pieces pieces') : Separate pieces' := by
  have hno : ∀ {piece piece' : Text}, ¬ coalescing <:+: piece →
      (piece' = piece ∨ '?' ∉ piece') → ¬ coalescing <:+: piece' := by
    rintro piece piece' hpiece (rfl | hpiece')
    · exact hpiece
    · exact no_pair_of_no_mark hpiece'
  induction h generalizing pieces' with
  | last hpiece =>
    obtain _ | ⟨hfirst, hrest⟩ := hpieces
    cases hrest
    exact .last (hno hpiece hfirst)
  | @cons piece pieces hpiece hmarks _ ih =>
    obtain _ | ⟨hfirst, hrest⟩ := hpieces
    refine .cons (hno hpiece hfirst) ?_ (ih hrest)
    rcases hfirst with rfl | hfirst
    · exact hmarks
    · exact trailingMarks_of_no_mark hfirst

theorem separate_of_no_mark {pieces : List Text} (hne : pieces ≠ [])
    (h : ∀ piece ∈ pieces, '?' ∉ piece) : Separate pieces := by
  induction pieces with
  | nil => exact absurd rfl hne
  | cons piece pieces ih =>
    have hpiece := h piece (List.mem_cons_self ..)
    cases pieces with
    | nil => exact .last (no_pair_of_no_mark hpiece)
    | cons next rest =>
      exact .cons (no_pair_of_no_mark hpiece)
        (trailingMarks_of_no_mark hpiece)
        (ih (List.cons_ne_nil next rest)
          fun other hother => h other (List.mem_cons_of_mem _ hother))

-- ============================================== white space at the ends

theorem isBlank_mark : isBlank '?' = false := by decide

/-- White space in front of a chain goes to its first piece. -/
theorem cut_blank_append {b t piece : Text} {pieces : List Text}
    (hb : Blank b) (hcut : cut t = piece :: pieces) :
    cut (b ++ t) = (b ++ piece) :: pieces := by
  induction b with
  | nil => exact hcut
  | cons c b ih =>
    refine cut_cons ?_ (ih fun d hd => hb d (List.mem_cons_of_mem _ hd))
    rintro t' rfl
    exact absurd (List.mem_cons_self ..) (hb.not_mem isBlank_mark)

/-- White space behind a chain goes to its last piece. -/
theorem cut_append_blank {b : Text} (hb : Blank b) (t : Text) :
    ∃ front last, cut t = front ++ [last]
      ∧ cut (t ++ b) = front ++ [last ++ b] := by
  have hmark : '?' ∉ b := hb.not_mem isBlank_mark
  fun_induction cut t with
  | case1 => exact ⟨[], [], rfl, cut_of_no_pair (no_pair_of_no_mark hmark)⟩
  | case2 t ih =>
    obtain ⟨front, last, hcut, hcut'⟩ := ih
    refine ⟨[] :: front, last, by rw [hcut]; rfl, ?_⟩
    rw [List.cons_append, List.cons_append, cut, hcut']
    rfl
  | case3 c t hpair hnil ih => exact absurd hnil (cut_ne_nil t)
  | case4 c t hpair piece pieces hcut ih =>
    have hpair' : ∀ t', c = '?' → t ++ b ≠ '?' :: t' := by
      intro t' hc ht
      cases t with
      | nil => exact hmark (by rw [show b = '?' :: t' from ht]; simp)
      | cons d t =>
        injection ht with hd
        exact hpair t hc (by rw [hd])
    obtain ⟨front, last, hfront, hfront'⟩ := ih
    rw [hcut] at hfront
    cases front with
    | nil =>
      injection hfront with hpiece hpieces
      subst hpiece hpieces
      exact ⟨[], c :: piece, rfl, cut_cons hpair' hfront'⟩
    | cons first front =>
      injection hfront with hpiece hpieces
      subst hpiece
      exact ⟨(c :: piece) :: front, last, by rw [hpieces]; rfl,
        cut_cons hpair' hfront'⟩

end Expression

/-- An alternative is read with white space around it left out. -/
theorem Alternative.parse_surrounded {before after : Text} (t : Text)
    (hbefore : Blank before) (hafter : Blank after) :
    parse (before ++ t ++ after) = parse t := by
  unfold parse
  rw [trim_surrounded hbefore hafter]

namespace Expression

/-- A chain is read with white space at its ends left out. -/
theorem parse_trim (t : Text) : parse (trim t) = parse t := by
  obtain ⟨before, after, hbefore, hafter, ht⟩ := exists_eq_trim t
  obtain ⟨piece, pieces, hcut⟩ :=
    List.exists_cons_of_ne_nil (cut_ne_nil (trim t ++ after))
  obtain ⟨front, last, hfront, hfront'⟩ := cut_append_blank hafter (trim t)
  have hlast : Alternative.parse (last ++ after) = Alternative.parse last :=
    Alternative.parse_surrounded last blank_nil hafter
  have hpiece : Alternative.parse (before ++ piece)
      = Alternative.parse piece := by
    have h := Alternative.parse_surrounded piece hbefore blank_nil
    rwa [List.append_nil] at h
  calc parse (trim t) = parse (trim t ++ after) := by
        rw [parse, parse, hfront, hfront']
        simp only [List.map_append, List.map_cons, List.map_nil, hlast]
    _ = parse (before ++ (trim t ++ after)) := by
        rw [parse, parse, hcut, cut_blank_append hbefore hcut,
          List.map_cons, List.map_cons, hpiece]
    _ = parse t := by rw [← List.append_assoc, ← ht]

end Expression

end Stencil
