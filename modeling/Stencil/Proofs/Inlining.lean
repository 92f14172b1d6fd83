/-
Writing into a template what an alias stands for.

An alias stands for a path, and the path is read when the alias is tried.
`Inlined` says how the path can be written into the template beforehand:
in some placeholders, and at some places of their chains, `alias:n` gives
way to the text that the table has for `n`. If that text is a path, then
the two templates render alike; if it is anything else, there is nothing
to be written, and the alias fails wherever it is tried.

# The argument

The text of a path has no `?` and no `}`, so that a chain is still cut
where it was cut before, and a placeholder ends where it ended
(`eq_or_not_mem`). Hence the segments of the one template stand for those
of the other, alternative by alternative, and each alternative is the
same or is the path in place of the alias (`exists_segmentation`). What
the alternatives come to is the same (`Stands.agree`), and from there the
two renderings are compared as transcripts: a step keeps what they have
in common (`step_matches`), and so does a run (`foldl_step_matches`).

Main statement: `alias_indirection`.
-/
import Stencil.Proofs.Interpreter
import Stencil.Proofs.Spelling

namespace Stencil

open Text

-- ================================================ statement vocabulary

/-- A written alternative, in which a reference to the alias `n` may have
given way to `p`. The white space around it stays. -/
inductive Alternative.Inlined (n p : Text) : Text → Text → Prop where
  | kept (piece : Text) : Inlined n p piece piece
  | replaced {before gap after : Text} : isIdentifier n = true →
      Blank before → Blank gap → Blank after →
      Inlined n p (before ++ (aliasMark ++ gap ++ n) ++ after)
        (before ++ p ++ after)

/-- A written chain, of which any alternatives may have been replaced. -/
def Expression.Inlined (n p t t' : Text) : Prop :=
  ∃ pieces, List.Forall₂ (Alternative.Inlined n p) (cut t) pieces
    ∧ t' = joinWith coalescing pieces

/-- A segment, and what is written in its place. -/
inductive Segment.Inlined (n p : Text) : Segment → Text → Prop where
  | literal (text : Text) : Inlined n p (.literal text) text
  | placeholder {body body' expression : Text} {span : Span} :
      Expression.Inlined n p body body' →
      Inlined n p
        (.placeholder (opening ++ body ++ ['}']) expression span)
        (opening ++ body' ++ ['}'])

/-- A template, of which any placeholders may have been replaced. -/
def Inlined (n p template template' : Text) : Prop :=
  ∃ parts,
    List.Forall₂ (Segment.Inlined n p) (Segment.scan template) parts
      ∧ template' = parts.flatten

/-- An engine for another template, with the same tables. -/
def Engine.withSource (e : Engine) (template : Text) : Engine :=
  { withJsonFields template e.jsonFields with
    aliases := e.aliases
    scripts := e.scripts
    blankFailures := e.blankFailures }

/-- What a failure leaves in the text. -/
def Failure.trace (blank : Bool) (f : Failure) : Text :=
  if blank then [] else f.placeholder

/-- Two texts with their failures. The failures have the same reasons,
and the texts differ in nothing but what the failures have left. -/
inductive Alike (blank : Bool) :
    Text → List Failure → Text → List Failure → Prop where
  | nil : Alike blank [] [] [] []
  | written {t t' : Text} {fs fs' : List Failure} (value : Text) :
      Alike blank t fs t' fs' →
      Alike blank (t ++ value) fs (t' ++ value) fs'
  | failed {t t' : Text} {fs fs' : List Failure} (f f' : Failure) :
      Alike blank t fs t' fs' → f.reasons = f'.reasons →
      Alike blank (t ++ f.trace blank) (fs ++ [f])
        (t' ++ f'.trace blank) (fs' ++ [f'])

/-- The scripts that a rendering has called, the turns it has left them
at, and the reasons of its failures. -/
def told {α : Type} (rendered : Effect α × Engine) :
    List Text × Turns × List (List Reason) :=
  (rendered.1.calls, rendered.1.turns,
    rendered.2.failures.map Failure.reasons)

/-- Two engines render a document alike, each its template. -/
structure Engine.RendersAlike (e e' : Engine) (turns : Turns)
    (data : Json) : Prop where
  /-- The scripts called and the reasons for failures are the same. -/
  told_eq : told (e.renderLossy turns data) = told (e'.renderLossy turns data)
  /-- The texts are the same but for the placeholders that are kept. -/
  alike : Alike e.blankFailures
    (e.renderLossy turns data).1.result (e.renderLossy turns data).2.failures
    (e'.renderLossy turns data).1.result
    (e'.renderLossy turns data).2.failures
  /-- They are the same where no placeholder is kept. -/
  text_eq : e.blankFailures = true →
    (e.renderLossy turns data).1.result
      = (e'.renderLossy turns data).1.result
  /-- All this is so with validation too. -/
  render_told_eq : ∀ validate,
    told (e.render turns data validate)
      = told (e'.render turns data validate)
  render_text_eq : ∀ validate, e.blankFailures = true →
    (e.render turns data validate).1.result.toOption
      = (e'.render turns data validate).1.result.toOption

-- ======================================================= what is read

/-- An alternative stands for another that is the same or is the path of
the alias that it refers to. -/
inductive Alternative.Stands (n : Text) (q : Path) :
    Alternative → Alternative → Prop where
  | same (a : Alternative) : Stands n q a a
  | target : Stands n q (.aliasRef n) (.path q)

/-- A segment stands for another of the same text, or of a chain in which
each alternative stands for the one in its place. -/
inductive Segment.Stands (n : Text) (q : Path) : Segment → Segment → Prop where
  | literal (text : Text) : Stands n q (.literal text) (.literal text)
  | placeholder {raw expression raw' expression' : Text}
      {span span' : Span} :
      List.Forall₂ (Alternative.Stands n q) (Expression.parse expression)
        (Expression.parse expression') →
      Stands n q (.placeholder raw expression span)
        (.placeholder raw' expression' span')

/-- A literal has nothing but a literal standing for it, and the end has
nothing. -/
theorem Segment.leads_of_stands {n : Text} {q : Path}
    {offset offset' : Nat} {text : Text} {rest rest' : List Segment}
    (h : Leads offset (.literal text) rest)
    (hrest : List.Forall₂ (Stands n q) rest rest') :
    Leads offset' (.literal text) rest' := by
  obtain ⟨hne, hplain, hnext⟩ := h
  refine ⟨hne, ?_, ?_⟩
  · rcases hplain with hplain | ⟨rfl, htail⟩
    · exact .inl hplain
    · cases hrest
      exact .inr ⟨rfl, htail⟩
  · rintro tail after rfl
    obtain _ | ⟨⟨⟩, hafter⟩ := hrest
    obtain ⟨rfl, htail⟩ := hnext tail _ rfl
    cases hafter
    exact ⟨rfl, htail⟩

section Reading

variable {n p : Text} {q : Path} (hp : Path.parse p = .ok q)
include hp

/-- The text of a path has nothing that does not belong to paths. -/
theorem Path.not_mem_of_parse {d : Char} (hd : Foreign d) : d ∉ p := by
  obtain ⟨before, after, hbefore, hafter, htrim⟩ := exists_eq_trim p
  rw [htrim]
  simp only [List.mem_append, not_or]
  exact ⟨⟨hbefore.not_mem hd.2.1, (written_of_parse hp).not_mem hd⟩,
    hafter.not_mem hd.2.1⟩

namespace Alternative

theorem Inlined.stands {piece piece' : Text}
    (h : Inlined n p piece piece') :
    Stands n q (parse piece) (parse piece') := by
  cases h with
  | kept => exact .same _
  | replaced hn hbefore hgap hafter =>
    rw [parse_surrounded _ hbefore hafter, parse_surrounded _ hbefore hafter,
      parse_aliasRef hgap hn, parse_of_parse_path hp]
    exact .target

/-- What does not belong to paths does not come in. -/
theorem Inlined.eq_or_not_mem {piece piece' : Text} {d : Char}
    (h : Inlined n p piece piece') (hd : Path.Foreign d) :
    piece' = piece ∨ d ∉ piece' := by
  cases h with
  | kept => exact .inl rfl
  | replaced hn hbefore hgap hafter =>
    refine .inr ?_
    simp only [List.mem_append, not_or]
    exact ⟨⟨hbefore.not_mem hd.2.1, Path.not_mem_of_parse hp hd⟩,
      hafter.not_mem hd.2.1⟩

end Alternative

namespace Expression

/-- The new pieces are those of the new chain. -/
theorem cut_of_inlined {t : Text} {pieces : List Text}
    (h : List.Forall₂ (Alternative.Inlined n p) (cut t) pieces) :
    cut (joinWith coalescing pieces) = pieces := by
  have hkept : List.Forall₂
      (fun piece piece' => piece' = piece ∨ '?' ∉ piece') (cut t) pieces :=
    h.imp fun piece piece' hpiece => hpiece.eq_or_not_mem hp (by decide)
  exact cut_joinWith ((separate_cut t).exchange hkept)

theorem Inlined.stands {t t' : Text} (h : Inlined n p t t') :
    List.Forall₂ (Alternative.Stands n q) (parse t) (parse t') := by
  obtain ⟨pieces, hpieces, rfl⟩ := h
  rw [parse, parse, cut_of_inlined hp hpieces, List.forall₂_map_left_iff,
    List.forall₂_map_right_iff]
  exact hpieces.imp fun piece piece' hpiece => hpiece.stands hp

/-- A new chain ends no placeholder that the old one does not end. -/
theorem Inlined.no_close {t t' : Text} (h : Inlined n p t t')
    (ht : '}' ∉ t) : '}' ∉ t' := by
  obtain ⟨pieces, hpieces, rfl⟩ := h
  have hforeign : Path.Foreign '}' := by decide
  have hcut : ∀ piece ∈ cut t, '}' ∉ piece := by
    intro piece hpiece hmem
    have hjoined := subset_joinWith hpiece hmem
    rw [joinWith_cut] at hjoined
    exact ht hjoined
  refine not_mem_joinWith (by decide) ?_
  generalize cut t = old at hpieces hcut
  induction hpieces with
  | nil => exact fun _ hmem => nomatch hmem
  | @cons piece piece' old pieces hpiece _ ih =>
    intro other hother
    rcases List.mem_cons.1 hother with rfl | hother
    · rcases hpiece.eq_or_not_mem hp hforeign with rfl | hno
      · exact hcut _ (List.mem_cons_self ..)
      · exact hno
    · exact ih (fun o ho => hcut o (List.mem_cons_of_mem _ ho)) other hother

end Expression

namespace Segment

/-- What is written in place of segments has segments, one for each. -/
theorem exists_segmentation {segments : List Segment} {offset : Nat}
    {t : Text} (h : Segmentation offset t segments) {parts : List Text}
    (hparts : List.Forall₂ (Inlined n p) segments parts) (offset' : Nat) :
    ∃ segments', Segmentation offset' parts.flatten segments'
      ∧ List.Forall₂ (Stands n q) segments segments' := by
  -- the two positions differ behind the first placeholder that is replaced
  induction hparts generalizing offset offset' t with
  | nil => exact ⟨[], segmentation_nil offset', .nil⟩
  | @cons segment part segments parts hpart hparts ih =>
    cases hpart with
    | literal =>
      obtain ⟨rest, hrest, hstands⟩ :=
        ih h.behind (offset' + byteLength part)
      exact ⟨.literal part :: rest,
        .cons (leads_of_stands h.leads hstands) hrest,
        .cons (.literal part) hstands⟩
    | @placeholder body body' expression span hbody =>
      obtain ⟨inner, hinner, hraw, rfl, -⟩ := h.leads
      obtain rfl : body = inner := by
        simpa using hraw
      have hclose := hbody.no_close hp hinner
      obtain ⟨rest, hrest, hstands⟩ := ih h.behind
        (offset' + byteLength (ofBody offset' body').source)
      refine ⟨ofBody offset' body' :: rest,
        .cons (leads_ofBody offset' rest hclose) hrest,
        .cons (.placeholder ?_) hstands⟩
      rw [Expression.parse_trim, Expression.parse_trim]
      exact hbody.stands hp

end Segment

/-- The segments of a template stand for those of the new one. -/
theorem Inlined.stands {t t' : Text} (h : Inlined n p t t') :
    List.Forall₂ (Segment.Stands n q) (Segment.scan t)
      (Segment.scan t') := by
  obtain ⟨parts, hparts, rfl⟩ := h
  obtain ⟨segments, hsegments, hstands⟩ := Segment.exists_segmentation hp
    (Segment.segmentation_scanFrom 0 t) hparts 0
  rwa [Segment.scan, Segment.scan, ← hsegments.eq_scanFrom]

end Reading

-- ================================================== what it comes to

/-- Two effects are the same but for what is logged. -/
def Effect.Agree {α : Type} (a b : Effect α) : Prop :=
  a.result = b.result ∧ a.turns = b.turns ∧ a.calls = b.calls

section Evaluating

variable {n p : Text} {q : Path} {ctx : Context}
  (hp : Path.parse p = .ok q) (hn : ctx.aliases.find? n = some p)
include hp hn

theorem Alternative.Stands.agree {a b : Alternative}
    (h : Stands n q a b) (turns : Turns) :
    (a.eval ctx turns).Agree (b.eval ctx turns) := by
  cases h with
  | same => exact ⟨rfl, rfl, rfl⟩
  | target =>
    simp only [Alternative.eval, hn, hp]
    exact ⟨rfl, rfl, rfl⟩

/-- Chains agree when their alternatives do. -/
theorem Expression.agree_of_stands {x y : Expression}
    (h : List.Forall₂ (Alternative.Stands n q) x y) (turns : Turns) :
    (Expression.eval ctx turns x).Agree (Expression.eval ctx turns y) := by
  induction h generalizing turns with
  | nil => exact ⟨rfl, rfl, rfl⟩
  | @cons a b x y hfirst _ ih =>
    obtain ⟨hresult, hturns, hcalls⟩ := hfirst.agree hp hn turns
    cases ha : (a.eval ctx turns).result with
    | ok value =>
      rw [ha] at hresult
      rw [eval_cons_of_ok x ha, eval_cons_of_ok y hresult.symm]
      exact ⟨rfl, hturns, hcalls⟩
    | error reason =>
      rw [ha] at hresult
      rw [eval_cons_of_error x ha, eval_cons_of_error y hresult.symm,
        ← hturns, ← hcalls]
      obtain ⟨hresult', hturns', hcalls'⟩ := ih (a.eval ctx turns).turns
      exact ⟨by rw [hresult'], hturns', by rw [hcalls']⟩

/-- What transcripts have in common that differ in nothing but what
their failures have left. -/
def Transcript.Matches (blank : Bool) (a b : Transcript) : Prop :=
  a.calls = b.calls ∧ a.turns = b.turns
    ∧ Alike blank a.text a.failures b.text b.failures

namespace Interpreter

variable {blank : Bool}

/-- Segments that stand for others do to matching transcripts what those
others do. -/
theorem step_matches {a b : Transcript} {segment segment' : Segment}
    (h : Segment.Stands n q segment segment') (hab : a.Matches blank b) :
    (step ctx blank a segment).Matches blank (step ctx blank b segment') := by
  obtain ⟨hcalls, hturns, htexts⟩ := hab
  cases h with
  | literal text => exact ⟨hcalls, hturns, .written text htexts⟩
  | @placeholder raw expression raw' expression' span span' hchain =>
    obtain ⟨hresult, hturns', hcalls'⟩ :=
      Expression.agree_of_stands hp hn hchain a.turns
    rw [step, step, tryAll_eq_settle, tryAll_eq_settle, ← hturns, ← hresult]
    simp only [tried, ← hturns', ← hcalls', ← hcalls]
    cases (Expression.eval ctx a.turns
        (Expression.parse expression)).result with
    | ok value => exact ⟨rfl, rfl, .written value.display htexts⟩
    | error reasons =>
      exact ⟨rfl, rfl, .failed ⟨expression, raw, reasons⟩
        ⟨expression', raw', reasons⟩ htexts rfl⟩

theorem foldl_step_matches {segments segments' : List Segment}
    (h : List.Forall₂ (Segment.Stands n q) segments segments')
    {a b : Transcript} (hab : a.Matches blank b) :
    (segments.foldl (step ctx blank) a).Matches blank
      (segments'.foldl (step ctx blank) b) := by
  induction h generalizing a b with
  | nil => exact hab
  | cons hfirst _ ih => exact ih (step_matches hp hn hfirst hab)

/-- Two templates, of which one is the other with the alias replaced, are
gone through alike. -/
theorem interpret_matches {t t' : Text} (h : Inlined n p t t')
    (turns : Turns) :
    (interpret ctx blank turns t).Matches blank
      (interpret ctx blank turns t') :=
  foldl_step_matches hp hn (h.stands hp) ⟨rfl, rfl, .nil⟩

end Interpreter

end Evaluating

-- ============================================================ rendering

namespace Alike

variable {blank : Bool} {t t' : Text} {fs fs' : List Failure}

theorem reasons_eq (h : Alike blank t fs t' fs') :
    fs.map Failure.reasons = fs'.map Failure.reasons := by
  induction h with
  | nil => rfl
  | written _ _ ih => exact ih
  | failed _ _ _ hreasons ih =>
    rw [List.map_append, List.map_append, ih, List.map_singleton,
      List.map_singleton, hreasons]

/-- Where failures leave nothing, the texts are the same. -/
theorem text_eq (h : Alike true t fs t' fs') : t = t' := by
  induction h with
  | nil => rfl
  | written value _ ih => rw [ih]
  | failed _ _ _ _ ih =>
    rw [ih]
    rfl

end Alike

namespace Engine

open Interpreter

variable {e : Engine} {n p : Text} {q : Path}

/-- An engine goes through the two templates alike. -/
theorem pass_alike (hp : Path.parse p = .ok q)
    (hn : e.aliases.find? n = some p) {t' : Text}
    (h : Inlined n p e.source t') (turns : Turns) (data : Json) :
    let indirect := e.pass turns data
    let direct := (e.withSource t').pass turns data
    indirect.calls = direct.calls ∧ indirect.turns = direct.turns
      ∧ Alike e.blankFailures indirect.text indirect.failures direct.text
          direct.failures := by
  have hctx : (e.context data).aliases.find? n = some p := hn
  have hmatches : (interpret (e.context data) e.blankFailures turns
      e.source).Matches e.blankFailures
        (interpret (e.context data) e.blankFailures turns t') :=
    interpret_matches hp hctx h turns
  have hdirect : interpret (e.context data) e.blankFailures turns t' = _ :=
    interpret_eq_pass (e.withSource t') turns data
  rwa [interpret_eq_pass, hdirect] at hmatches

/-- With the path in place of the alias, a template is rendered alike. -/
theorem rendersAlike_of_inlined (hp : Path.parse p = .ok q)
    (hn : e.aliases.find? n = some p) {t' : Text}
    (h : Inlined n p e.source t') (turns : Turns) (data : Json) :
    RendersAlike e (e.withSource t') turns data := by
  obtain ⟨hcalls, hturns, halike⟩ := pass_alike hp hn h turns data
  have hreasons := halike.reasons_eq
  have htext : e.blankFailures = true →
      (e.pass turns data).text
        = ((e.withSource t').pass turns data).text := by
    intro hblank
    rw [hblank] at halike
    exact halike.text_eq
  -- neither rendering is refused without the other
  have hempty := congrArg List.isEmpty hreasons
  rw [List.isEmpty_map, List.isEmpty_map] at hempty
  refine ⟨?_, halike, htext, fun validate => ?_, fun validate hblank => ?_⟩
  · simp only [told, renderLossy, record, hcalls, hturns, hreasons]
  · simp only [told, render, record, ← hempty, hreasons, ← hcalls, ← hturns]
    by_cases hrefused : (validate && !(e.pass turns data).failures.isEmpty)
    · simp only [if_pos hrefused]
    · simp only [if_neg hrefused]
  · simp only [render, ← hempty]
    by_cases hrefused : (validate && !(e.pass turns data).failures.isEmpty)
    · simp only [if_pos hrefused]
      rfl
    · simp only [if_neg hrefused]
      exact congrArg some (htext hblank)

/-- A reference to an alias that stands for no path fails for that. -/
theorem eval_aliasRef_of_error {ctx : Context} {why : SyntaxError}
    {piece : Text} (hp : Path.parse p = .error why)
    (hn : ctx.aliases.find? n = some p) (hname : isIdentifier n = true)
    (hpiece : Alternative.Spelled (.aliasRef n) piece) (turns : Turns) :
    (Alternative.parse piece).eval ctx turns
      = { result := .error (.invalidTarget n p why)
          turns := turns
          calls := []
          log := [.expandingAlias n p] } := by
  rw [hpiece.parse_eq hname, Alternative.eval, hn]
  simp only [hp]

/-- Neither a reference nor a chain is a path. -/
theorem exists_error_of_mark (h : ':' ∈ p ∨ '?' ∈ p) :
    ∃ why, Path.parse p = .error why := by
  cases hp : Path.parse p with
  | error why => exact ⟨why, rfl⟩
  | ok q =>
    rcases h with hcolon | hmark
    · exact absurd hcolon (Path.not_mem_of_parse hp (by decide))
    · exact absurd hmark (Path.not_mem_of_parse hp (by decide))

/-- Let an engine have an alias. If it stands for a path, a template may
have the path in place of any references to the alias, and is rendered
alike. If it stands for anything else, such as a reference or a chain,
each reference to it fails for that, and neither another alias nor a
script is tried. -/
theorem alias_indirection (hn : e.aliases.find? n = some p) :
    (∀ q, Path.parse p = .ok q → ∀ t', Inlined n p e.source t' →
      ∀ turns data, RendersAlike e (e.withSource t') turns data)
      ∧ (∀ why, Path.parse p = .error why → isIdentifier n = true →
        ∀ piece, Alternative.Spelled (.aliasRef n) piece → ∀ turns data,
          (Alternative.parse piece).eval (e.context data) turns
            = { result := .error (.invalidTarget n p why)
                turns := turns
                calls := []
                log := [.expandingAlias n p] })
      ∧ (':' ∈ p ∨ '?' ∈ p → ∃ why, Path.parse p = .error why) := by
  refine ⟨fun q hp t' h turns data => ?_, fun why hp hname piece hpiece
    turns data => ?_, exists_error_of_mark⟩
  · exact rendersAlike_of_inlined hp hn h turns data
  · have hcontext : (e.context data).aliases.find? n = some p := hn
    exact eval_aliasRef_of_error hp hcontext hname hpiece turns

theorem alias_indirection_behind_path :
    let e : Engine :=
      { Engine.new "$\x7bx ??alias: u \x7d!" with
        aliases := ((∅ : Table Text).insert ['u'] ['a', '.', 'b']).insert
          ['v'] (Alternative.aliasMark ++ ['u']) }
    e.aliases.find? ['u'] = some ['a', '.', 'b']
      ∧ Inlined ['u'] ['a', '.', 'b'] e.source "$\x7bx ??a.b \x7d!"
      ∧ (∀ turns data,
        (e.renderLossy turns data).1.result
          = ((e.withSource "$\x7bx ??a.b \x7d!").renderLossy turns
              data).1.result)
      ∧ e.aliases.find? ['v'] = some (Alternative.aliasMark ++ ['u'])
      ∧ ∃ why, ∀ turns data,
        (Alternative.parse (Alternative.aliasMark ++ [' '] ++ ['v'])).eval
            (e.context data) turns
          = { result := .error (.invalidTarget ['v']
                (Alternative.aliasMark ++ ['u']) why)
              turns := turns
              calls := []
              log := [.expandingAlias ['v']
                (Alternative.aliasMark ++ ['u'])] } := by
  intro e
  have hblank : Blank [' '] := by
    intro c hc
    rw [List.mem_singleton.1 hc]
    decide
  have hu : e.aliases.find? ['u'] = some ['a', '.', 'b'] := by decide
  have hv : e.aliases.find? ['v']
      = some (Alternative.aliasMark ++ ['u']) := by decide
  have hp : Path.parse ['a', '.', 'b'] = .ok [.field ['a'], .field ['b']] := by
    decide +kernel
  have hname : isIdentifier ['u'] = true ∧ isIdentifier ['v'] = true := by
    decide +kernel
  have hscan : Segment.scan e.source
      = [.placeholder (Segment.opening ++ "x ??alias: u " ++ ['}'])
          "x ??alias: u" ⟨0, 16⟩, .literal ['!']] := by
    decide +kernel
  have hcut : Expression.cut "x ??alias: u "
      = [['x', ' '],
        [] ++ (Alternative.aliasMark ++ [' '] ++ ['u']) ++ [' ']] := by
    decide
  have hchain : Expression.Inlined ['u'] ['a', '.', 'b'] "x ??alias: u "
      "x ??a.b " := by
    refine ⟨[['x', ' '], [] ++ ['a', '.', 'b'] ++ [' ']], ?_, by decide⟩
    rw [hcut]
    exact .cons (.kept _)
      (.cons (.replaced hname.1 blank_nil hblank hblank) .nil)
  have hinlined : Inlined ['u'] ['a', '.', 'b'] e.source
      "$\x7bx ??a.b \x7d!" := by
    refine ⟨[Segment.opening ++ "x ??a.b " ++ ['}'], ['!']], ?_, by decide⟩
    rw [hscan]
    exact .cons (.placeholder hchain) (.cons (.literal _) .nil)
  obtain ⟨why, hwhy⟩ := (alias_indirection hv).2.2 (.inl (by decide))
  exact ⟨hu, hinlined, fun turns data =>
      ((alias_indirection hu).1 _ hp _ hinlined turns data).text_eq rfl,
    hv, why, fun turns data => (alias_indirection hv).2.1 why hwhy hname.2 _
      (.aliasRef ['v'] hblank) turns data⟩

end Engine

end Stencil
