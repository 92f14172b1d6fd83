/-
One template behind another.

Templates can be written in parts and put together: what comes of the
whole is what comes of the parts, one after the other, as long as no
placeholder reaches over a joint. Two things could make one do so. The
part in front may hold a `${` that has not ended (`Closed` excludes it),
or it may end with `$` where the part behind starts with `{` (`Joins`).
Everything else may meet there; in particular literal text on both sides
becomes one literal, so that the segments of the whole are not those of
the parts.

# The argument

Symbols are not merged by a joint. The part in front goes over to symbols
segment by segment, and behind its last segment the symbols of the other
part begin (`symbols_append`). A rendering goes through symbols, hence
through those of the part in front, and from the turns that these leave
through the others (`interpret_append`). Where placeholders stand is
found again by adding up what the symbols take (`locate`), and what is in
front of a part moves all its placeholders alike (`locate_shift`).

Main statement: `render_concatenation`.
-/
import Stencil.Proofs.Inlining
import Stencil.Proofs.Symbols

namespace Stencil

open Text Segment

-- ================================================ statement vocabulary

/-- Every `${` of a template starts a placeholder: no literal has one. -/
def Closed (template : Text) : Prop :=
  ∀ text, .literal text ∈ scan template → Plain text

namespace Segment

/-- The segment at a place so many bytes further behind. -/
def shift (bytes : Nat) : Segment → Segment
  | literal text => literal text
  | placeholder raw expression span =>
    placeholder raw expression ⟨bytes + span.start, bytes + span.stop⟩

/-- The placeholders of a template, with their places. -/
def placeholders (template : Text) : List Segment :=
  (scan template).filter isPlaceholder

end Segment

-- ======================================================= over the joint

/-- What is behind another text joins as that does. -/
theorem Joins.behind {a b c : Text} (h : Joins (a ++ b) c) : Joins b c := by
  intro hlast
  refine h ?_
  rw [List.getLast?_append, hlast]
  rfl

/-- Behind closed segments another text keeps its symbols. -/
theorem symbols_segments_append {offset : Nat} {a b : Text}
    {segments : List Segment} (h : Segmentation offset a segments)
    (hclosed : ∀ text, .literal text ∈ segments → Plain text)
    (hjoint : Joins a b) :
    symbols (a ++ b) = segments.flatMap Segment.symbols ++ symbols b := by
  induction segments generalizing offset a with
  | nil =>
    rw [← h.covers]
    rfl
  | cons segment rest ih =>
    have hcovers := h.covers
    rw [List.flatMap_cons] at hcovers
    rw [← hcovers] at hjoint
    have hrest := ih h.behind
      (fun text hmem => hclosed text (List.mem_cons_of_mem _ hmem))
      hjoint.behind
    rw [← hcovers, List.flatMap_cons, List.append_assoc, List.append_assoc,
      ← hrest]
    cases segment with
    | literal text =>
      refine symbols_plain_append
        (hclosed text (List.mem_cons_self ..)) fun hlast hhead => ?_
      -- a `{` behind the literal is the first character of `b`
      rcases h.opening_behind with hnil | ⟨more, hopen⟩
      · rw [hnil, List.append_nil] at hjoint
        rw [hnil] at hhead
        exact hjoint hlast hhead
      · rw [← hopen] at hhead
        injection hhead with hdollar
        exact absurd hdollar (by decide)
    | placeholder raw expression span =>
      obtain ⟨body, hbody, rfl, rfl, -⟩ := h.leads
      exact symbols_placeholder_append _ hbody

/-- Nothing happens to the symbols of two templates at their joint. -/
theorem symbols_append {a b : Text} (hclosed : Closed a)
    (hjoint : Joins a b) : symbols (a ++ b) = symbols a ++ symbols b :=
  symbols_segments_append (segmentation_scanFrom 0 a) hclosed hjoint

-- =============================================================== places

/-- The placeholders among symbols of which the first is at `offset`, with
their places. -/
def locate (offset : Nat) : List Symbol → List Segment
  | [] => []
  | .char c :: rest => locate (offset + c.utf8Size) rest
  | .placeholder raw expression :: rest =>
    .placeholder raw expression ⟨offset, offset + byteLength raw⟩
      :: locate (offset + byteLength raw) rest

theorem locate_chars_append (offset : Nat) (t : Text) (rest : List Symbol) :
    locate offset (t.map .char ++ rest)
      = locate (offset + byteLength t) rest := by
  induction t generalizing offset with
  | nil => rfl
  | cons c t ih =>
    rw [List.map_cons, List.cons_append, locate, ih, byteLength_cons,
      Nat.add_assoc]

/-- The placeholders among symbols move with the first symbol. -/
theorem locate_shift (bytes offset : Nat) (s : List Symbol) :
    locate (bytes + offset) s = (locate offset s).map (shift bytes) := by
  induction s generalizing offset with
  | nil => rfl
  | cons symbol rest ih =>
    cases symbol with
    | char c => rw [locate, locate, Nat.add_assoc, ih]
    | placeholder raw expression =>
      rw [locate, locate, List.map_cons, Nat.add_assoc, ih]
      rfl

/-- The placeholders among the symbols of segments are those of the
segments. -/
theorem locate_segments_append {offset : Nat} {t : Text}
    {segments : List Segment} (h : Segmentation offset t segments)
    (rest : List Symbol) :
    locate offset (segments.flatMap Segment.symbols ++ rest)
      = segments.filter isPlaceholder
        ++ locate (offset + byteLength t) rest := by
  induction segments generalizing offset t with
  | nil =>
    rw [← h.covers]
    rfl
  | cons segment others ih =>
    have hothers := ih h.behind
    rw [Nat.add_assoc, ← byteLength_append] at hothers
    rw [← h.covers, List.flatMap_cons, List.flatMap_cons,
      List.append_assoc]
    cases segment with
    | literal text =>
      rw [Segment.symbols, locate_chars_append]
      exact hothers
    | placeholder raw expression span =>
      obtain ⟨start, stop⟩ := span
      obtain ⟨body, -, -, -, hstart, hstop⟩ := h.leads
      obtain rfl : start = offset := hstart
      obtain rfl : stop = start + byteLength raw := hstop
      rw [Segment.symbols, List.singleton_append, locate]
      exact congrArg (List.cons _) hothers

/-- The placeholders of a template are where its symbols say. -/
theorem placeholders_eq_locate (template : Text) :
    Segment.placeholders template = locate 0 (symbols template) := by
  have h := locate_segments_append (segmentation_scanFrom 0 template) []
  rw [List.append_nil, locate, List.append_nil] at h
  exact h.symm

theorem placeholders_append {a b : Text} (hclosed : Closed a)
    (hjoint : Joins a b) :
    Segment.placeholders (a ++ b)
      = Segment.placeholders a
        ++ (Segment.placeholders b).map (shift (byteLength a)) := by
  calc Segment.placeholders (a ++ b)
      = locate 0 (symbols a ++ symbols b) := by
        rw [placeholders_eq_locate, symbols_append hclosed hjoint]
    _ = Segment.placeholders a ++ locate (0 + byteLength a) (symbols b) :=
        locate_segments_append (segmentation_scanFrom 0 a) (symbols b)
    _ = Segment.placeholders a
          ++ (Segment.placeholders b).map (shift (byteLength a)) := by
        rw [Nat.zero_add, ← Nat.add_zero (byteLength a), locate_shift,
          Nat.add_zero, ← placeholders_eq_locate]

-- ============================================================ rendering

/-- What has come of one part of a template, and from its turns of
another. -/
def Transcript.append (a b : Transcript) : Transcript :=
  { text := a.text ++ b.text
    failures := a.failures ++ b.failures
    calls := a.calls ++ b.calls
    turns := b.turns }

namespace Engine

open Interpreter

/-- Going through a template goes on from what has come of another. -/
theorem foldl_step_eq_append (e : Engine) (data : Json)
    (sofar : Transcript) :
    (scan e.source).foldl (step (e.context data) e.blankFailures) sofar
      = sofar.append
          (interpret (e.context data) e.blankFailures sofar.turns
            e.source) := by
  rw [interpret_eq_pass, foldl_step_eq_extend e.compiled_pieces]
  rfl

/-- Two templates in one are gone through one after the other. -/
theorem interpret_append {a b : Text} (hclosed : Closed a)
    (hjoint : Joins a b) (e : Engine) (turns : Turns) (data : Json) :
    let front := interpret (e.context data) e.blankFailures turns a
    interpret (e.context data) e.blankFailures turns (a ++ b)
      = front.append
          (interpret (e.context data) e.blankFailures front.turns b) := by
  intro front
  have hback := (e.withSource b).foldl_step_eq_append data front
  have hsymbols : (symbols b).foldl
        (stepSymbol (e.context data) e.blankFailures) front
      = (scan b).foldl (step (e.context data) e.blankFailures) front := by
    rw [symbols, List.foldl_flatMap]
    simp only [foldl_stepSymbol_symbols]
  rw [interpret_eq_foldl_symbols, symbols_append hclosed hjoint,
    List.foldl_append, ← interpret_eq_foldl_symbols, hsymbols]
  exact hback

/-- Let every `${` of the template in front start a placeholder, and none
be made by the joint. Then the placeholders of two templates in one are
those of the first and, further behind, those of the second, and what is
rendered is the first template and, from the turns of scripts that this
leaves, the second. -/
theorem render_concatenation {a b : Text} (hclosed : Closed a)
    (hjoint : Joins a b) :
    Segment.placeholders (a ++ b)
        = Segment.placeholders a
          ++ (Segment.placeholders b).map (shift (byteLength a))
      ∧ ∀ (e : Engine) (turns : Turns) (data : Json),
        let front := (e.withSource a).renderLossy turns data
        let back := (e.withSource b).renderLossy front.1.turns data
        (e.withSource (a ++ b)).Renders turns data
          { text := front.1.result ++ back.1.result
            failures := front.2.failures ++ back.2.failures
            calls := front.1.calls ++ back.1.calls
            turns := back.1.turns } := by
  refine ⟨placeholders_append hclosed hjoint, fun e turns data => ?_⟩
  intro front back
  have hfront : interpret (e.context data) e.blankFailures turns a
      = ⟨front.1.result, front.2.failures, front.1.calls, front.1.turns⟩ :=
    (e.withSource a).interpret_eq_pass turns data
  have hback : interpret (e.context data) e.blankFailures front.1.turns b
      = ⟨back.1.result, back.2.failures, back.1.calls, back.1.turns⟩ :=
    (e.withSource b).interpret_eq_pass front.1.turns data
  have hwhole : interpret (e.context data) e.blankFailures turns (a ++ b)
      = { text := front.1.result ++ back.1.result
          failures := front.2.failures ++ back.2.failures
          calls := front.1.calls ++ back.1.calls
          turns := back.1.turns } := by
    rw [interpret_append hclosed hjoint, hfront]
    exact congrArg (Transcript.append _) hback
  have hrenders := (e.withSource (a ++ b)).renders_interpret turns data
  rw [← hwhole]
  exact hrenders

/-- Two literals meet at a joint that is all `$`, and the second part goes
on with the turns of a script that the first one has called. -/
theorem render_concatenation_between_dollars :
    let a : Text := "é$\x7bx ?? script:s\x7d$"
    let b : Text := "$$\x7bscript:s\x7d$\x7b"
    let scripts : Table Script :=
      (∅ : Table Script).insert ['s'] ⟨0, [.int 1, .int 2]⟩
    let e : Engine := { Engine.new [] with scripts := ⟨scripts⟩ }
    Closed a ∧ Joins a b
      ∧ Segment.placeholders (a ++ b)
        = Segment.placeholders a
          ++ (Segment.placeholders b).map (shift (byteLength a))
      ∧ (Segment.placeholders b).map (shift (byteLength a))
        = [.placeholder "$\x7bscript:s\x7d" "script:s" ⟨20, 31⟩]
      ∧ (e.withSource (a ++ b)).Renders [0] (.object [])
          ⟨"é1$$2$\x7b", [], [['s'], ['s']], [2]⟩ := by
  intro a b scripts e
  have hscan : scan a
      = [.literal ['é'],
        .placeholder "$\x7bx ?? script:s\x7d" "x ?? script:s" ⟨2, 18⟩,
        .literal ['$']] := by
    decide +kernel
  have hclosed : Closed a := by
    intro text hmem
    rw [hscan] at hmem
    simp only [List.mem_cons, List.not_mem_nil, or_false,
      Segment.literal.injEq, reduceCtorEq, false_or] at hmem
    rcases hmem with rfl | rfl
    · show ¬ opening <:+: _
      decide
    · show ¬ opening <:+: _
      decide
  have hjoint : Joins a b := by
    intro _
    decide
  obtain ⟨hplaceholders, hrenders⟩ := render_concatenation hclosed hjoint
  refine ⟨hclosed, hjoint, hplaceholders, by decide +kernel, ?_⟩
  let front := (e.withSource a).renderLossy [0] (.object [])
  let back := (e.withSource b).renderLossy front.1.turns (.object [])
  have hcomes : Transcript.mk (front.1.result ++ back.1.result)
        (front.2.failures ++ back.2.failures)
        (front.1.calls ++ back.1.calls) back.1.turns
      = ⟨"é1$$2$\x7b", [], [['s'], ['s']], [2]⟩ :=
    Transcript.ext (by decide +kernel) (by decide +kernel)
      (by decide +kernel) (by decide +kernel)
  rw [← hcomes]
  exact hrenders e [0] (.object [])

end Engine

end Stencil
