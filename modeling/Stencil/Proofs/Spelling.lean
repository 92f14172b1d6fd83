/-
Writing an expression so that it is read back.

`Spelled` says how an expression may be written: `.` before a name,
brackets around an index, `alias:` and `script:` before the name of a
reference, `??` between alternatives, and any white space around an
alternative, behind the mark of a reference and inside the brackets. An
expression that has something to write (`WellFormed`) has such texts, and
whichever is chosen, it is read as that expression: by itself, and as a
placeholder of a template.

# What keeps the pieces apart

Names have no `?`, so the text is cut where the alternatives were joined
and nowhere else; they have no `:`, so a path is not taken for a
reference; they have no `}`, so a placeholder ends behind its expression;
and none of them is or has white space, so trimming takes off what was
let in and no more. For paths this is what `Written` settles; the rest is
about the two marks.

Main statement: `parse_spelled`.
-/
import Stencil.Proofs.Grammar
import Stencil.Proofs.Segmentation
import Stencil.Proofs.Splitting

namespace Stencil

open Text

-- ================================================ statement vocabulary

/-- A step that can be written: to a name that is an identifier, or to an
index of 64 bits. -/
def Step.WellFormed : Step → Prop
  | .field name => isIdentifier name = true
  | .index i => Path.IndexRange i

/-- An alternative that can be written. A path has to start with a
name. -/
def Alternative.WellFormed : Alternative → Prop
  | .path (.field name :: steps) =>
    isIdentifier name = true ∧ ∀ step ∈ steps, step.WellFormed
  | .path _ => False
  | .aliasRef name => isIdentifier name = true
  | .scriptRef name => isIdentifier name = true
  | .invalid _ _ => False

/-- A step, written, with white space around an index. -/
inductive Step.Spelled : Step → Text → Prop where
  | field (name : Text) : Spelled (.field name) ('.' :: name)
  | index {before after : Text} (i : Int) : Blank before → Blank after →
      Spelled (.index i) ('[' :: (before ++ ofInt i ++ after ++ [']']))

/-- Steps, written one behind the other. -/
inductive Path.SpelledSteps : Path → Text → Prop where
  | nil : SpelledSteps [] []
  | cons {step : Step} {steps : Path} {t u : Text} : step.Spelled t →
      SpelledSteps steps u → SpelledSteps (step :: steps) (t ++ u)

/-- An alternative, written, with white space behind the mark of a
reference and around the whole. -/
inductive Alternative.Spelled : Alternative → Text → Prop where
  | path {name t : Text} {steps : Path} : Path.SpelledSteps steps t →
      Spelled (.path (.field name :: steps)) (name ++ t)
  | aliasRef {gap : Text} (name : Text) : Blank gap →
      Spelled (.aliasRef name) (aliasMark ++ gap ++ name)
  | scriptRef {gap : Text} (name : Text) : Blank gap →
      Spelled (.scriptRef name) (scriptMark ++ gap ++ name)
  | surrounded {a : Alternative} {before t after : Text} :
      Blank before → Spelled a t → Blank after →
      Spelled a (before ++ t ++ after)

/-- An expression, written: its alternatives with `??` between them. -/
def Expression.Spelled (e : Expression) (t : Text) : Prop :=
  ∃ pieces, List.Forall₂ Alternative.Spelled e pieces
    ∧ t = joinWith coalescing pieces

/-- Whether a segment is a placeholder. -/
def Segment.isPlaceholder : Segment → Bool
  | literal _ => false
  | placeholder _ _ _ => true

-- ================================================================= paths

namespace Path

/-- Steps that are spelled out are written. -/
theorem SpelledSteps.written {steps : Path} {t : Text}
    (h : SpelledSteps steps t) (hsteps : ∀ step ∈ steps, step.WellFormed) :
    WrittenSteps t steps := by
  induction h with
  | nil => exact .nil
  | @cons step steps t u hstep _ ih =>
    have hrest := ih fun other hother =>
      hsteps other (List.mem_cons_of_mem _ hother)
    have hfirst := hsteps step (List.mem_cons_self ..)
    cases hstep with
    | field name => exact .field hfirst hrest
    | index i hbefore hafter =>
      have h := WrittenSteps.index hbefore (numeral_ofInt i) hafter hfirst
        hrest
      simpa using h

/-- Steps are printed as they are spelled without white space. -/
theorem spelledSteps_print (steps : Path) :
    SpelledSteps steps (steps.flatMap Step.print) := by
  induction steps with
  | nil => exact .nil
  | cons step steps ih =>
    refine .cons ?_ ih
    cases step with
    | field name => exact .field name
    | index i =>
      have h := Step.Spelled.index i blank_nil blank_nil
      rwa [List.nil_append, List.append_nil] at h

end Path

-- ========================================================== alternatives

namespace Alternative

theorem spelled_print {a : Alternative} (hwf : a.WellFormed) :
    a.Spelled a.print := by
  cases a with
  | path p =>
    obtain _ | ⟨⟨name⟩ | i, steps⟩ := p
    · cases hwf
    · exact .path (Path.spelledSteps_print steps)
    · cases hwf
  | aliasRef name => exact .aliasRef name blank_nil
  | scriptRef name => exact .scriptRef name blank_nil
  | invalid text why => cases hwf

/-- The mark of a reference is found only in texts with a colon. -/
theorem isPrefixOf_of_no_colon {mark t : Text} (hmark : ':' ∈ mark)
    (ht : ':' ∉ t) : mark.isPrefixOf t = false := by
  cases h : mark.isPrefixOf t with
  | false => rfl
  | true => exact absurd ((List.isPrefixOf_iff_prefix.1 h).subset hmark) ht

/-- What is read as a path is read as no reference. -/
theorem parse_of_parse_path {t : Text} {p : Path}
    (h : Path.parse t = .ok p) : parse t = .path p := by
  have hwritten := Path.written_of_parse h
  have hcolon : ':' ∉ trim t := hwritten.not_mem (by decide)
  have hpath : Path.parse (trim t) = .ok p :=
    Path.parse_of_written (by rwa [trim_trim])
  unfold parse
  have hscript : scriptMark.isPrefixOf (trim t) = false :=
    isPrefixOf_of_no_colon (by decide) hcolon
  have halias : aliasMark.isPrefixOf (trim t) = false :=
    isPrefixOf_of_no_colon (by decide) hcolon
  simp only [hscript, halias, hpath, Bool.false_eq_true, if_false]

section Reference

variable {mark gap name : Text}

/-- A reference neither starts nor ends with white space. -/
theorem trim_reference (hmark : mark.head?.map isBlank = some false)
    (hname : isIdentifier name = true) :
    trim (mark ++ gap ++ name) = mark ++ gap ++ name := by
  obtain ⟨x, hx, hblank⟩ := Option.map_eq_some_iff.1 hmark
  refine trim_eq_self (fun c hc => ?_) (fun c hc => ?_)
  · rw [List.append_assoc, List.head?_append, hx] at hc
    cases hc
    exact hblank
  · rw [List.getLast?_append, Option.or_eq_some_iff] at hc
    rcases hc with hc | ⟨hnone, -⟩
    · exact Path.isBlank_of_mem_identifier hname (List.mem_of_getLast? hc)
    · exact absurd (List.getLast?_eq_none_iff.1 hnone)
        (ne_nil_of_isIdentifier hname)

/-- Behind the mark of a reference its name is found. -/
theorem trim_drop_mark (hgap : Blank gap) (hname : isIdentifier name = true) :
    trim ((mark ++ gap ++ name).drop mark.length) = name := by
  rw [List.append_assoc, List.drop_left, trim_blank_append name hgap]
  exact trim_of_no_blank fun c hc => Path.isBlank_of_mem_identifier hname hc

theorem isPrefixOf_reference :
    mark.isPrefixOf (mark ++ gap ++ name) = true :=
  List.isPrefixOf_iff_prefix.2 ⟨gap ++ name, by rw [List.append_assoc]⟩

theorem parse_aliasRef (hgap : Blank gap) (hname : isIdentifier name = true) :
    parse (aliasMark ++ gap ++ name) = .aliasRef name := by
  have hscript : scriptMark.isPrefixOf (aliasMark ++ gap ++ name) = false :=
    rfl
  have hmark : aliasMark.head?.map isBlank = some false := by decide
  unfold parse
  simp only [trim_reference hmark hname, hscript, isPrefixOf_reference,
    trim_drop_mark hgap hname, reference, hname, if_true, if_false,
    Bool.false_eq_true]

theorem parse_scriptRef (hgap : Blank gap) (hname : isIdentifier name = true) :
    parse (scriptMark ++ gap ++ name) = .scriptRef name := by
  have hmark : scriptMark.head?.map isBlank = some false := by decide
  unfold parse
  simp only [trim_reference hmark hname, isPrefixOf_reference,
    trim_drop_mark hgap hname, reference, hname, if_true]

end Reference

/-- An alternative is read as what is spelled. -/
theorem Spelled.parse_eq {a : Alternative} {t : Text} (h : a.Spelled t)
    (hwf : a.WellFormed) : parse t = a := by
  induction h with
  | @path name t steps hsteps =>
    have hwritten := Path.Written.intro hwf.1 (hsteps.written hwf.2)
    exact parse_of_parse_path
      (Path.parse_of_written (by rwa [hwritten.trim_eq]))
  | aliasRef name hgap =>
    exact parse_aliasRef hgap hwf
  | scriptRef name hgap =>
    exact parse_scriptRef hgap hwf
  | surrounded hbefore _ hafter ih =>
    rw [parse_surrounded _ hbefore hafter, ih hwf]

/-- What neither a path nor a mark has anywhere, no alternative has. -/
theorem Spelled.not_mem {a : Alternative} {t : Text} {d : Char}
    (h : a.Spelled t) (hwf : a.WellFormed) (hd : Path.Foreign d)
    (hmarks : d ∉ scriptMark ++ aliasMark) : d ∉ t := by
  have hblank : ∀ {b : Text}, Blank b → d ∉ b := fun hb => hb.not_mem hd.2.1
  simp only [List.mem_append, not_or] at hmarks
  induction h with
  | path hsteps =>
    exact (Path.Written.intro hwf.1 (hsteps.written hwf.2)).not_mem hd
  | aliasRef name hgap =>
    simp only [List.mem_append, not_or]
    exact ⟨⟨hmarks.2, hblank hgap⟩, Path.not_mem_identifier hd hwf⟩
  | scriptRef name hgap =>
    simp only [List.mem_append, not_or]
    exact ⟨⟨hmarks.1, hblank hgap⟩, Path.not_mem_identifier hd hwf⟩
  | surrounded hbefore _ hafter ih =>
    simp only [List.mem_append, not_or]
    exact ⟨⟨hblank hbefore, ih hwf⟩, hblank hafter⟩

end Alternative

-- ========================================================== placeholders

namespace Segment

/-- Behind text in which no placeholder starts, the first placeholder is
the one that starts there. -/
theorem find?_scan {l body : Text} (r : Text) (hl : Plain l)
    (hbody : '}' ∉ body) :
    (scan (l ++ (opening ++ body ++ ['}'] ++ r))).find? isPlaceholder
      = some (ofBody (byteLength l) body) := by
  have hopen : opening <+: opening ++ body ++ ['}'] ++ r :=
    ⟨body ++ ['}'] ++ r, by simp⟩
  cases l with
  | nil =>
    rw [List.nil_append, scan, scanFrom_placeholder_append 0 r hbody]
    rfl
  | cons c l =>
    rw [scan, scanFrom_plain_append 0 (List.cons_ne_nil c l) hl
      (.inr hopen), Nat.zero_add, scanFrom_placeholder_append _ r hbody]
    rfl

end Segment

-- =========================================================== expressions

namespace Expression

/-- The pieces of an expression are read one by one. -/
theorem map_parse_of_spelled {e : Expression} {pieces : List Text}
    (h : List.Forall₂ Alternative.Spelled e pieces)
    (hwf : ∀ a ∈ e, a.WellFormed) : pieces.map Alternative.parse = e := by
  induction h with
  | nil => rfl
  | @cons a piece e pieces hfirst _ ih =>
    have hrest := ih fun other hother =>
      hwf other (List.mem_cons_of_mem _ hother)
    rw [List.map_cons, hrest, hfirst.parse_eq (hwf a (List.mem_cons_self ..))]

/-- No piece of an expression holds what would end it. -/
theorem not_mem_pieces {e : Expression} {pieces : List Text} {d : Char}
    (h : List.Forall₂ Alternative.Spelled e pieces)
    (hwf : ∀ a ∈ e, a.WellFormed) (hd : d = '?' ∨ d = '}') :
    ∀ piece ∈ pieces, d ∉ piece := by
  have hforeign : Path.Foreign d
      ∧ d ∉ Alternative.scriptMark ++ Alternative.aliasMark := by
    rcases hd with rfl | rfl <;> decide
  induction h with
  | nil => exact fun _ hmem => nomatch hmem
  | @cons a piece e pieces hfirst _ ih =>
    intro other hother
    rcases List.mem_cons.1 hother with rfl | hother
    · exact hfirst.not_mem (hwf a (List.mem_cons_self ..)) hforeign.1
        hforeign.2
    · exact ih (fun b hb => hwf b (List.mem_cons_of_mem _ hb)) other hother

theorem spelled_print {e : Expression} (hwf : ∀ a ∈ e, a.WellFormed) :
    Spelled e e.print := by
  refine ⟨e.map Alternative.print, ?_, rfl⟩
  rw [List.forall₂_map_right_iff]
  exact List.forall₂_same.2 fun a ha => Alternative.spelled_print (hwf a ha)

/-- An expression is read as what is spelled. -/
theorem Spelled.parse_eq {e : Expression} {t : Text} (h : Spelled e t)
    (hne : e ≠ []) (hwf : ∀ a ∈ e, a.WellFormed) : parse t = e := by
  obtain ⟨pieces, hpieces, rfl⟩ := h
  have hnonempty : pieces ≠ [] := by
    rintro rfl
    cases hpieces
    exact hne rfl
  rw [parse, cut_joinWith (separate_of_no_mark hnonempty
    (not_mem_pieces hpieces hwf (.inl rfl)))]
  exact map_parse_of_spelled hpieces hwf

/-- An expression that can be written is read back from every text that
spells it, and there is one: the text is read as the expression, and so
is what stands between the braces when it is put in a placeholder, which
is then the first one behind text in which none starts. -/
theorem parse_spelled {e : Expression} (hne : e ≠ [])
    (hwf : ∀ a ∈ e, a.WellFormed) :
    Spelled e e.print
      ∧ ∀ t, Spelled e t →
        parse t = e
          ∧ ∀ l r, Segment.Plain l →
            let raw := ['$', '{'] ++ t ++ ['}']
            (Segment.scan (l ++ (raw ++ r))).find? Segment.isPlaceholder
                = some (.placeholder raw (trim t)
                    ⟨byteLength l, byteLength l + byteLength raw⟩)
              ∧ parse (trim t) = e := by
  refine ⟨spelled_print hwf, fun t ht => ⟨ht.parse_eq hne hwf, ?_⟩⟩
  intro l r hl raw
  refine ⟨?_, by rw [parse_trim, ht.parse_eq hne hwf]⟩
  obtain ⟨pieces, hpieces, rfl⟩ := ht
  have hbrace : '}' ∉ joinWith coalescing pieces :=
    not_mem_joinWith (by decide)
      (not_mem_pieces hpieces hwf (.inr rfl))
  exact Segment.find?_scan r hl hbrace

theorem parse_spelled_least_index :
    let e : Expression :=
      [.path [.field ['k'], .index (-0x8000000000000000)], .aliasRef ['b']]
    e ≠ [] ∧ (∀ a ∈ e, a.WellFormed)
      ∧ Spelled e "k[\u3000-9223372036854775808 ] ??alias: b"
      ∧ parse "k[\u3000-9223372036854775808 ] ??alias: b" = e := by
  intro e
  have hblank : ∀ c, isBlank c = true → Blank [c] := by
    intro c hc d hd
    rwa [List.mem_singleton.1 hd]
  have hne : e ≠ [] := List.cons_ne_nil _ _
  have hwf : ∀ a ∈ e, a.WellFormed := by
    intro a ha
    simp only [e, List.mem_cons, List.not_mem_nil, or_false] at ha
    rcases ha with rfl | rfl
    · refine ⟨by decide +kernel, fun step hstep => ?_⟩
      rw [List.mem_singleton.1 hstep]
      exact ⟨by decide, by decide⟩
    · show isIdentifier ['b'] = true
      decide +kernel
  have hspelled : Spelled e "k[\u3000-9223372036854775808 ] ??alias: b" := by
    refine ⟨_, .cons (.surrounded blank_nil (.path (.cons (.index _
      (hblank '\u3000' (by decide)) (hblank ' ' (by decide))) .nil))
      (hblank ' ' (by decide))) (.cons (.aliasRef _
      (hblank ' ' (by decide))) .nil), ?_⟩
    decide +kernel
  exact ⟨hne, hwf, hspelled, ((parse_spelled hne hwf).2 _ hspelled).1⟩

end Expression

end Stencil
