/-
The segments of a template, said without scanning it.

`Segmentation` lists what has to hold of segments so that they are those
of a text: written one after the other they are the text, a placeholder
goes from its `${` to the next `}` and knows its place, and a literal is
as long as it can be. Nothing in it says how to find the segments.

# The argument

A text is nothing, or it starts with literal text that ends in front of
a `${`, or with a placeholder, or it is a `${` that no `}` follows
(`text_cases`). For each form `scanFrom` has one equation, and so have
segments that are a `Segmentation`; the rest is induction, over the text
for the segments that are found (`segmentation_scanFrom`) and over the
segments for any others (`Segmentation.eq_scanFrom`).

Main statement: `segmentation_iff_eq_scan`, that the segments found by
`scan` are a segmentation of the template and the only one.
-/
import Stencil.Segment

namespace Stencil

open Text

namespace Segment

-- ================================================ statement vocabulary

/-- What a placeholder starts with. -/
abbrev opening : Text := ['$', '{']

/-- A text that starts like a placeholder and in which none ends. -/
def Unterminated (t : Text) : Prop := opening <+: t ∧ '}' ∉ t

/-- A text in which no placeholder starts. -/
def Plain (t : Text) : Prop := ¬ opening <:+: t

/-- The segments of a text that starts at the byte position `offset`. -/
structure Segmentation (offset : Nat) (t : Text)
    (segments : List Segment) : Prop where
  /-- Nothing is lost, added or moved. -/
  covers : segments.flatMap source = t
  /-- A placeholder ends at the first `}`, and its span is the range of
  bytes that it takes up. -/
  placeholders : ∀ before raw expression span after,
    segments = before ++ .placeholder raw expression span :: after →
      ∃ body, '}' ∉ body ∧ raw = opening ++ body ++ ['}']
        ∧ expression = trim body
        ∧ span.start = offset + byteLength (before.flatMap source)
        ∧ span.stop = span.start + byteLength raw
  /-- No literal is empty. -/
  literal_ne_nil : .literal [] ∉ segments
  /-- A `${` is literal text only where it goes on to the end. -/
  literal_plain : ∀ before text after,
    segments = before ++ .literal text :: after →
      Plain text ∨ after = [] ∧ Unterminated text
  /-- Literals meet only in front of such a `${`. -/
  literals_apart : ∀ before text tail after,
    segments = before ++ .literal text :: .literal tail :: after →
      after = [] ∧ Unterminated tail

-- ======================================================= forms of texts

theorem splitOpen_fst_plain (t : Text) : Plain (splitOpen t).1 := by
  fun_induction splitOpen t with
  | case1 => simp [Plain]
  | case2 t => simp [Plain]
  | case3 c t hopen ih =>
    intro h
    rcases List.infix_cons_iff.1 h with h | h
    · -- the mark would start at `c`, where the cut would have been
      obtain ⟨tail, h⟩ := h
      injection h with hc htail
      refine hopen (tail ++ (splitOpen t).2) hc.symm ?_
      calc t = (splitOpen t).1 ++ (splitOpen t).2 := (splitOpen_append t).symm
        _ = '{' :: (tail ++ (splitOpen t).2) := by rw [← htail]; rfl
    · exact ih h

theorem splitOpen_snd (t : Text) :
    (splitOpen t).2 = [] ∨ opening <+: (splitOpen t).2 := by
  fun_induction splitOpen t with
  | case1 => exact .inl rfl
  | case2 t => exact .inr ⟨t, rfl⟩
  | case3 c t hopen ih => exact ih

/-- A text is cut behind the plain part in front. -/
theorem splitOpen_plain_append {text rest : Text} (htext : Plain text)
    (hrest : rest = [] ∨ opening <+: rest) :
    splitOpen (text ++ rest) = (text, rest) := by
  induction text with
  | nil =>
    rcases hrest with rfl | ⟨tail, rfl⟩
    · rfl
    · rfl
  | cons c text ih =>
    have hplain : Plain text := fun h => htext (List.infix_cons h)
    have hc : ∀ tail, c = '$' → text ++ rest ≠ '{' :: tail := by
      rintro tail rfl h
      cases text with
      | nil =>
        rcases hrest with rfl | ⟨more, rfl⟩
        · cases h
        · injection h with h
          exact absurd h (by decide)
      | cons d text =>
        injection h with hd
        subst hd
        exact htext ⟨[], text, rfl⟩
    rw [List.cons_append, splitOpen.eq_3 c _ hc, ih hplain]

/-- A placeholder that has not ended ends at the next `}` or nowhere. -/
theorem opening_cases {t : Text} (h : opening <+: t) :
    (∃ body rest, '}' ∉ body ∧ t = opening ++ body ++ ['}'] ++ rest)
      ∨ Unterminated t := by
  obtain ⟨t, rfl⟩ := h
  by_cases hclose : '}' ∈ t
  · obtain ⟨body, rest, rfl, hbody⟩ := List.eq_append_cons_of_mem hclose
    exact .inl ⟨body, rest, hbody, by simp⟩
  · exact .inr ⟨⟨t, rfl⟩, by simp [hclose]⟩

/-- What a text is in front. -/
theorem text_cases (t : Text) :
    t = []
      ∨ (∃ text rest, t = text ++ rest ∧ text ≠ [] ∧ Plain text
          ∧ (rest = [] ∨ opening <+: rest))
      ∨ (∃ body rest, '}' ∉ body ∧ t = opening ++ body ++ ['}'] ++ rest)
      ∨ Unterminated t := by
  have happend := splitOpen_append t
  rcases hcut : splitOpen t with ⟨text, rest⟩
  have hplain := splitOpen_fst_plain t
  have hrest := splitOpen_snd t
  rw [hcut] at happend hplain hrest
  cases text with
  | cons c text =>
    exact .inr (.inl ⟨_, rest, happend.symm, List.cons_ne_nil c text,
      hplain, hrest⟩)
  | nil =>
    obtain rfl : rest = t := happend
    rcases hrest with rfl | hrest
    · exact .inl rfl
    · exact .inr (.inr (opening_cases hrest))

-- ============================================= the segments of each form

theorem scanFrom_nil (offset : Nat) : scanFrom offset [] = [] := by
  rw [scanFrom]
  rfl

/-- Plain text in front is one literal. -/
theorem scanFrom_plain_append (offset : Nat) {text rest : Text}
    (hne : text ≠ []) (htext : Plain text)
    (hrest : rest = [] ∨ opening <+: rest) :
    scanFrom offset (text ++ rest)
      = .literal text :: scanFrom (offset + byteLength text) rest := by
  have hcut := splitOpen_plain_append htext hrest
  obtain ⟨c, text, rfl⟩ := List.exists_cons_of_ne_nil hne
  rw [scanFrom]
  split
  next d text' rest' hcut' =>
    rw [hcut] at hcut'
    injection hcut' with htext' hrest'
    rw [← htext', ← hrest']
  next rest' hcut' =>
    rw [hcut] at hcut'
    cases hcut'

/-- Neither a cut nor a body is found in front of anything else. -/
theorem splitOpen_of_opening {t : Text} (h : opening <+: t) :
    splitOpen t = ([], t) :=
  @splitOpen_plain_append [] t (by simp [Plain]) (.inr h)

/-- A text that starts like a placeholder is one up to its body's end, or
else it is all literal. -/
theorem scanFrom_of_opening (offset : Nat) {t : Text} (h : opening <+: t) :
    scanFrom offset t
      = match splitBody? t with
        | some (body, after) =>
          ofBody offset body
            :: scanFrom (offset + byteLength (ofBody offset body).source)
              after
        | none => [.literal t] := by
  have hcut := splitOpen_of_opening h
  have hne : t ≠ [] := by
    rintro rfl
    simp at h
  rw [scanFrom]
  split
  next c text rest hcut' =>
    rw [hcut] at hcut'
    cases hcut'
  next rest hcut' =>
    rw [hcut] at hcut'
    injection hcut' with _ hrest
    subst hrest
    split
    next body after htaken => rw [htaken]
    next htaken => rw [htaken, if_neg hne]

/-- A placeholder in front is one. -/
theorem scanFrom_placeholder_append (offset : Nat) {body : Text}
    (rest : Text) (hbody : '}' ∉ body) :
    scanFrom offset (opening ++ body ++ ['}'] ++ rest)
      = ofBody offset body
        :: scanFrom (offset + byteLength (ofBody offset body).source)
          rest := by
  have hne : ∀ c ∈ body, (c ≠ '}' : Bool) = true := by
    intro c hc
    have : c ≠ '}' := fun h => hbody (h ▸ hc)
    simpa using this
  have ht : opening ++ body ++ ['}'] ++ rest
      = '$' :: '{' :: (body ++ '}' :: rest) := by simp
  have htaken : splitBody? (opening ++ body ++ ['}'] ++ rest)
      = some (body, rest) := by
    rw [ht, splitBody?, List.dropWhile_append_of_pos hne,
      List.takeWhile_append_of_pos hne]
    simp
  rw [scanFrom_of_opening offset ⟨body ++ ['}'] ++ rest, by simp⟩, htaken]

/-- A `${` that no `}` follows is one literal. -/
theorem scanFrom_unterminated (offset : Nat) {t : Text}
    (h : Unterminated t) : scanFrom offset t = [.literal t] := by
  obtain ⟨hopen, hclose⟩ := h
  rw [scanFrom_of_opening offset hopen]
  cases htaken : splitBody? t with
  | none => rfl
  | some taken =>
    refine absurd ?_ hclose
    rw [eq_of_splitBody? htaken]
    simp

-- ============================================== segmentations, in front

/-- What a segmentation says about its first segment, which starts at
`offset`, and the segments behind it. -/
def Leads (offset : Nat) : Segment → List Segment → Prop
  | .literal text, rest =>
    text ≠ [] ∧ (Plain text ∨ rest = [] ∧ Unterminated text)
      ∧ ∀ tail after, rest = .literal tail :: after →
        after = [] ∧ Unterminated tail
  | .placeholder raw expression span, _ =>
    ∃ body, '}' ∉ body ∧ raw = opening ++ body ++ ['}']
      ∧ expression = trim body
      ∧ span.start = offset ∧ span.stop = span.start + byteLength raw

/-- The first segment is as it has to be. -/
theorem Segmentation.leads {offset : Nat} {t : Text} {segment : Segment}
    {rest : List Segment} (h : Segmentation offset t (segment :: rest)) :
    Leads offset segment rest := by
  cases segment with
  | literal text =>
    refine ⟨?_, h.literal_plain [] text rest rfl, ?_⟩
    · rintro rfl
      exact h.literal_ne_nil (List.mem_cons_self ..)
    · rintro tail after rfl
      exact h.literals_apart [] text tail after rfl
  | placeholder raw expression span =>
    exact h.placeholders [] raw expression span rest rfl

/-- What is behind the first segment is segmented too. -/
theorem Segmentation.behind {offset : Nat} {t : Text} {segment : Segment}
    {rest : List Segment} (h : Segmentation offset t (segment :: rest)) :
    Segmentation (offset + byteLength segment.source) (rest.flatMap source)
      rest := by
  refine ⟨rfl, ?_, ?_, ?_, ?_⟩
  · intro before raw expression span after hrest
    obtain ⟨body, hbody, hraw, hexpression, hstart, hstop⟩ :=
      h.placeholders (segment :: before) raw expression span after
        (by rw [hrest]; rfl)
    refine ⟨body, hbody, hraw, hexpression, ?_, hstop⟩
    rw [hstart, List.flatMap_cons, byteLength_append, Nat.add_assoc]
  · intro hmem
    exact h.literal_ne_nil (List.mem_cons_of_mem _ hmem)
  · intro before text after hrest
    exact h.literal_plain (segment :: before) text after (by rw [hrest]; rfl)
  · intro before text tail after hrest
    exact h.literals_apart (segment :: before) text tail after
      (by rw [hrest]; rfl)

/-- A segmentation is put together from the front. -/
theorem Segmentation.cons {offset : Nat} {segment : Segment}
    {rest : List Segment} {t : Text} (hleads : Leads offset segment rest)
    (h : Segmentation (offset + byteLength segment.source) t rest) :
    Segmentation offset (segment.source ++ t) (segment :: rest) := by
  refine ⟨?_, ?_, ?_, ?_, ?_⟩
  · rw [List.flatMap_cons, h.covers]
  · intro before raw expression span after hsegments
    rcases List.cons_eq_append_iff.1 hsegments with
      ⟨rfl, heq⟩ | ⟨before, rfl, hrest⟩
    · injection heq with hsegment hafter
      subst hsegment
      exact hleads
    · obtain ⟨body, hbody, hraw, hexpression, hstart, hstop⟩ :=
        h.placeholders before raw expression span after hrest
      refine ⟨body, hbody, hraw, hexpression, ?_, hstop⟩
      rw [hstart, List.flatMap_cons, byteLength_append, Nat.add_assoc]
  · intro hmem
    rcases List.mem_cons.1 hmem with rfl | hmem
    · exact hleads.1 rfl
    · exact h.literal_ne_nil hmem
  · intro before text after hsegments
    rcases List.cons_eq_append_iff.1 hsegments with
      ⟨rfl, heq⟩ | ⟨before, rfl, hrest⟩
    · injection heq with hsegment hafter
      subst hsegment hafter
      exact hleads.2.1
    · exact h.literal_plain before text after hrest
  · intro before text tail after hsegments
    rcases List.cons_eq_append_iff.1 hsegments with
      ⟨rfl, heq⟩ | ⟨before, rfl, hrest⟩
    · injection heq with hsegment hrest
      subst hsegment
      exact hleads.2.2 tail after hrest.symm
    · exact h.literals_apart before text tail after hrest

theorem segmentation_nil (offset : Nat) : Segmentation offset [] [] := by
  refine ⟨rfl, ?_, List.not_mem_nil, ?_, ?_⟩
  · intro before raw expression span after h
    simp at h
  · intro before text after h
    simp at h
  · intro before text tail after h
    simp at h

/-- What the body of a placeholder says of the segment. -/
theorem leads_ofBody (offset : Nat) {body : Text} (rest : List Segment)
    (hbody : '}' ∉ body) : Leads offset (ofBody offset body) rest :=
  ⟨body, hbody, rfl, rfl, rfl, rfl⟩

-- ========================================================= what is found

/-- A literal found behind another one is a `${` that no `}` follows. -/
theorem literal_behind_plain {offset : Nat} {t tail : Text}
    {after : List Segment} (ht : t = [] ∨ opening <+: t)
    (h : scanFrom offset t = .literal tail :: after) :
    after = [] ∧ Unterminated tail := by
  rcases ht with rfl | hopen
  · rw [scanFrom_nil] at h
    cases h
  · rcases opening_cases hopen with ⟨body, rest, hbody, rfl⟩ | htail
    · rw [scanFrom_placeholder_append _ rest hbody] at h
      cases h
    · rw [scanFrom_unterminated _ htail] at h
      cases h
      exact ⟨rfl, htail⟩

/-- The segments found in a text are a segmentation of it. -/
theorem segmentation_scanFrom (offset : Nat) (t : Text) :
    Segmentation offset t (scanFrom offset t) := by
  induction hn : t.length using Nat.strongRecOn generalizing offset t with
  | ind n ih =>
    subst hn
    rcases text_cases t with
      rfl | ⟨text, rest, rfl, hne, htext, hrest⟩
        | ⟨body, rest, hbody, rfl⟩ | htail
    · rw [scanFrom_nil]
      exact segmentation_nil offset
    · rw [scanFrom_plain_append offset hne htext hrest]
      have hlength : 0 < text.length := List.length_pos_iff.2 hne
      have hleads : Leads offset (.literal text)
          (scanFrom (offset + byteLength text) rest) :=
        ⟨hne, .inl htext, fun _ _ => literal_behind_plain hrest⟩
      exact .cons hleads (ih rest.length (by simp; omega) _ rest rfl)
    · rw [scanFrom_placeholder_append offset rest hbody]
      exact .cons (leads_ofBody offset _ hbody)
        (ih rest.length (by simp; omega) _ rest rfl)
    · rw [scanFrom_unterminated offset htail]
      have hne : t ≠ [] := by
        rintro rfl
        exact absurd htail.1 (by simp)
      have hleads : Leads offset (.literal t) [] :=
        ⟨hne, .inr ⟨rfl, htail⟩, by simp⟩
      have h := Segmentation.cons hleads (segmentation_nil _)
      rwa [source, List.append_nil] at h

/-- Behind a literal a placeholder starts, or something like one. -/
theorem Segmentation.opening_behind {offset : Nat} {t text : Text}
    {rest : List Segment}
    (h : Segmentation offset t (.literal text :: rest)) :
    rest.flatMap source = [] ∨ opening <+: rest.flatMap source := by
  cases rest with
  | nil => exact .inl rfl
  | cons next rest =>
    refine .inr ?_
    cases next with
    | literal tail =>
      obtain ⟨rfl, htail⟩ := h.leads.2.2 tail rest rfl
      exact htail.1.trans (List.prefix_append _ _)
    | placeholder raw expression span =>
      obtain ⟨body, -, rfl, -⟩ := h.behind.leads
      exact ⟨body ++ ['}'] ++ rest.flatMap source, by simp [source]⟩

/-- Segments that are a segmentation of a text are those found in it. -/
theorem Segmentation.eq_scanFrom {offset : Nat} {t : Text}
    {segments : List Segment} (h : Segmentation offset t segments) :
    segments = scanFrom offset t := by
  induction segments generalizing offset t with
  | nil =>
    rw [← h.covers, List.flatMap_nil, scanFrom_nil]
  | cons segment rest ih =>
    have hrest := ih h.behind
    rw [← h.covers, List.flatMap_cons]
    cases segment with
    | literal text =>
      obtain ⟨hne, htext | ⟨rfl, htail⟩, -⟩ := h.leads
      · rw [source, scanFrom_plain_append offset hne htext
          h.opening_behind]
        exact congrArg _ hrest
      · rw [List.flatMap_nil, List.append_nil, source,
          scanFrom_unterminated offset htail]
    | placeholder raw expression span =>
      obtain ⟨body, hbody, rfl, rfl, hstart, hstop⟩ := h.leads
      obtain ⟨start, stop⟩ := span
      obtain rfl : start = offset := hstart
      obtain rfl : stop = start + byteLength (opening ++ body ++ ['}']) :=
        hstop
      rw [source, scanFrom_placeholder_append start _ hbody]
      exact congrArg _ hrest

/-- The segments that `scan` finds are a segmentation of the template,
and no others are. -/
theorem segmentation_iff_eq_scan (template : Text)
    (segments : List Segment) :
    Segmentation 0 template segments ↔ segments = scan template := by
  constructor
  · intro h
    exact h.eq_scanFrom
  · rintro rfl
    exact segmentation_scanFrom 0 template

-- A lone `$` is literal, and so is a `${` that does not end.
example :
    scan ['$', '$', '{', 'a', '}', '$', '{', 'b']
      = [.literal ['$'],
        .placeholder ['$', '{', 'a', '}'] ['a'] ⟨1, 5⟩,
        .literal ['$', '{', 'b']] := by
  decide +kernel

end Segment

end Stencil
