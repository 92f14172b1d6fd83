/-
The names that can be registered are those that a template can refer to.

An alias or a script can have every identifier for a name and nothing
else, and a reference in a template names an identifier or is none. So
each registration that is taken can be made use of: `alias:` or `script:`
with the name is read as the reference, by itself and as a placeholder
with white space inside, and a rendering that comes to it expands that
alias or calls that script. A name that is refused occurs in no
expression, whatever its text.

# The argument

What is spelled out is read back (`Expression.Spelled.parse_eq`), and a
placeholder is found behind text in which none starts
(`Segment.find?_scan`); this settles what is read. A rendering goes
through all placeholders whatever comes of them, and the first alternative
of each is tried, so its events are in the log (`exists_tried_of_mem`).
Conversely a reference is made at one place only, where the name has been
looked at (`isIdentifier_of_mem_parse`).

Main statement: `registered_iff_referable`.
-/
import Stencil.Engine.Render
import Stencil.Proofs.Spelling

namespace Stencil

open Text Stencil.Alternative

-- ================================================ statement vocabulary

/-- This text is read as the one alternative `a`: by itself, and as a
placeholder with white space inside the braces, which is the first one of
a template when none starts before it. -/
structure Alternative.ReadFrom (a : Alternative) (t : Text) : Prop where
  parse_eq : Expression.parse t = [a]
  scanned : ∀ l r before after, Segment.Plain l → Blank before →
    Blank after →
    let raw := ['$', '{'] ++ (before ++ t ++ after) ++ ['}']
    (Segment.scan (l ++ (raw ++ r))).find? Segment.isPlaceholder
      = some (.placeholder raw t
          ⟨byteLength l, byteLength l + byteLength raw⟩)

namespace Engine

/-- A name is taken for an alias and for a script, and a rendering that
comes to a reference to one of them reaches it. -/
structure Takes (e : Engine) (turns : Turns) (name path : Text)
    (values : List Returned) : Prop where
  aliased : ∃ e', e.registerAlias name path = .ok e'
    ∧ ∀ turns data, aliasMark ++ name ∈ e.placeholders →
        .expandingAlias name path ∈ (e'.pass turns data).log
  aliasRef : (Alternative.aliasRef name).ReadFrom (aliasMark ++ name)
  scripted : ∃ e', e.registerScript turns name values
      = .ok (e', turns.extend)
    ∧ e'.scripts.find? name
      = some ⟨turns.fresh, values.map Returned.toJson⟩
    ∧ ∀ data, scriptMark ++ name ∈ e.placeholders →
        name ∈ (e'.pass turns.extend data).calls
  scriptRef : (Alternative.scriptRef name).ReadFrom (scriptMark ++ name)

/-- A name is refused for an alias and for a script, and no expression
refers to it. -/
structure Refuses (e : Engine) (turns : Turns) (name path : Text)
    (values : List Returned) : Prop where
  aliasRefused : e.registerAlias name path = .error (.invalidAlias name)
  scriptRefused : e.registerScript turns name values
    = .error (.invalidScript name)
  unnamed : ∀ text, .aliasRef name ∉ Expression.parse text
    ∧ .scriptRef name ∉ Expression.parse text

end Engine

-- ============================================================== references

/-- What spells a reference is read as it. -/
theorem Alternative.ReadFrom.of_spelled {a : Alternative} {t : Text}
    (h : a.Spelled t) (hwf : a.WellFormed) (htrim : trim t = t) :
    a.ReadFrom t where
  parse_eq := by
    have hspelled : Expression.Spelled [a] t :=
      ⟨[t], .cons h .nil, (Expression.joinWith_singleton t).symm⟩
    refine hspelled.parse_eq (List.cons_ne_nil a []) fun b hb => ?_
    rwa [List.mem_singleton.1 hb]
  scanned l r before after hl hbefore hafter := by
    have hbrace : '}' ∉ before ++ t ++ after := by
      simp only [List.mem_append, not_or]
      exact ⟨⟨hbefore.not_mem (by decide),
        h.not_mem hwf (by decide) (by decide)⟩,
        hafter.not_mem (by decide)⟩
    have hfound := Segment.find?_scan r hl hbrace
    rwa [Segment.ofBody, trim_surrounded hbefore hafter, htrim] at hfound

/-- The name of a reference is an identifier. -/
theorem Alternative.isIdentifier_of_parse {t name : Text}
    (h : parse t = .aliasRef name ∨ parse t = .scriptRef name) :
    isIdentifier name = true := by
  rcases parse_cases t with ⟨found, hfound, hparse⟩
    | ⟨found, hfound, hparse⟩ | ⟨p, -, hparse⟩ | ⟨e, hparse⟩
  · obtain rfl : found = name := by simpa [hparse] using h
    exact hfound
  · obtain rfl : found = name := by simpa [hparse] using h
    exact hfound
  · simp [hparse] at h
  · simp [hparse] at h

/-- No expression refers to a name that is no identifier. -/
theorem Expression.isIdentifier_of_mem_parse {text name : Text}
    (h : .aliasRef name ∈ parse text ∨ .scriptRef name ∈ parse text) :
    isIdentifier name = true := by
  rcases h with h | h
  · obtain ⟨piece, -, hpiece⟩ := List.mem_map.1 h
    exact Alternative.isIdentifier_of_parse (.inl hpiece)
  · obtain ⟨piece, -, hpiece⟩ := List.mem_map.1 h
    exact Alternative.isIdentifier_of_parse (.inr hpiece)

-- ============================================================== renderings

/-- The first alternative of a chain is tried. -/
theorem Expression.subset_eval_cons (ctx : Context) (turns : Turns)
    (a : Alternative) (rest : Expression) :
    (a.eval ctx turns).log ⊆ (Expression.eval ctx turns (a :: rest)).log
      ∧ (a.eval ctx turns).calls
        ⊆ (Expression.eval ctx turns (a :: rest)).calls := by
  cases hfirst : (a.eval ctx turns).result with
  | ok value =>
    rw [eval_cons_of_ok rest hfirst]
    exact ⟨List.Subset.refl _, List.Subset.refl _⟩
  | error reason =>
    rw [eval_cons_of_error rest hfirst]
    exact ⟨List.subset_append_left .., List.subset_append_left ..⟩

namespace Engine

variable {e : Engine}

theorem exists_piece_of_mem_ofSegments {offset : Nat}
    {segments : List Segment} {text : Text}
    (h : text ∈ (Piece.ofSegments offset segments).filterMap Piece.text?) :
    ∃ span, .placeholder span text (Expression.parse text)
      ∈ Piece.ofSegments offset segments := by
  induction segments generalizing offset with
  | nil => cases h
  | cons segment rest ih =>
    cases segment with
    | literal literal =>
      obtain ⟨span, hspan⟩ := ih h
      exact ⟨span, List.mem_cons_of_mem _ hspan⟩
    | placeholder raw expression span =>
      rcases List.mem_cons.1 h with rfl | hrest
      · exact ⟨span, List.mem_cons_self ..⟩
      · obtain ⟨span', hspan⟩ := ih hrest
        exact ⟨span', List.mem_cons_of_mem _ hspan⟩

/-- Each placeholder of a template is a piece with its text read. -/
theorem exists_piece {text : Text} (h : text ∈ e.placeholders) :
    ∃ span, .placeholder span text (Expression.parse text) ∈ e.pieces := by
  rw [placeholders, e.compiled] at h
  rw [e.compiled]
  exact exists_piece_of_mem_ofSegments h

/-- A placeholder is gone through, whatever has become of those before. -/
theorem exists_eval_of_mem_pieces (ctx : Context) {pieces : List Piece}
    {span : Span} {text : Text} {x : Expression}
    (h : .placeholder span text x ∈ pieces) (turns : Turns) :
    ∃ turns',
      (x.eval ctx turns').log ⊆ (e.renderPieces ctx turns pieces).log
        ∧ (x.eval ctx turns').calls
          ⊆ (e.renderPieces ctx turns pieces).calls := by
  induction pieces generalizing turns with
  | nil => cases h
  | cons piece rest ih =>
    rcases List.mem_cons.1 h with rfl | hrest
    · refine ⟨turns, List.subset_append_of_subset_left _ ?_,
        List.subset_append_of_subset_left _ ?_⟩
      · simp only [renderPiece]
        split
        · exact List.subset_append_left ..
        · exact List.Subset.refl _
      · simp only [renderPiece]
        split <;> exact List.Subset.refl _
    · obtain ⟨turns', hlog, hcalls⟩ :=
        ih hrest (e.renderPiece ctx turns piece).turns
      exact ⟨turns', List.subset_append_of_subset_right _ hlog,
        List.subset_append_of_subset_right _ hcalls⟩

/-- So a reference that is a placeholder of its own is tried in every
rendering. -/
theorem exists_tried_of_mem {text : Text} {a : Alternative}
    (h : text ∈ e.placeholders) (ha : Expression.parse text = [a])
    (turns : Turns) (data : Json) :
    ∃ turns',
      (a.eval (e.context data) turns').log ⊆ (e.pass turns data).log
        ∧ (a.eval (e.context data) turns').calls
          ⊆ (e.pass turns data).calls := by
  obtain ⟨span, hpiece⟩ := exists_piece h
  rw [ha] at hpiece
  obtain ⟨turns', hlog, hcalls⟩ :=
    exists_eval_of_mem_pieces (e := e) (e.context data) hpiece turns
  obtain ⟨hlog', hcalls'⟩ :=
    Expression.subset_eval_cons (e.context data) turns' a []
  exact ⟨turns',
    List.subset_append_of_subset_left _ (List.Subset.trans hlog' hlog),
    List.Subset.trans hcalls' hcalls⟩

/-- An alias that is found is expanded. -/
theorem expandingAlias_mem_log {ctx : Context} {name path : Text}
    (h : ctx.aliases.find? name = some path) (turns : Turns) :
    .expandingAlias name path
      ∈ ((Alternative.aliasRef name).eval ctx turns).log := by
  simp only [Alternative.eval, h]
  split <;> exact List.mem_cons_self ..

-- =========================================================== registration

section Registration

variable (e : Engine) (turns : Turns) {name : Text} (path : Text)
  (values : List Returned)

theorem takes_of_isIdentifier (hname : isIdentifier name = true) :
    e.Takes turns name path values := by
  have hgap : ∀ mark : Text, mark ++ [] ++ name = mark ++ name := by
    intro mark
    rw [List.append_nil]
  have halias : (Alternative.aliasRef name).ReadFrom (aliasMark ++ name) := by
    rw [← hgap]
    exact .of_spelled (.aliasRef name blank_nil) hname
      (trim_reference (by decide) hname)
  have hscript :
      (Alternative.scriptRef name).ReadFrom (scriptMark ++ name) := by
    rw [← hgap]
    exact .of_spelled (.scriptRef name blank_nil) hname
      (trim_reference (by decide) hname)
  refine ⟨⟨_, if_pos hname, fun turns data hmem => ?_⟩, halias, ?_, hscript⟩
  · let e' : Engine := { e with aliases := e.aliases.insert name path }
    obtain ⟨turns', hlog, -⟩ :=
      exists_tried_of_mem (e := e') hmem halias.parse_eq turns data
    refine hlog (expandingAlias_mem_log ?_ turns')
    show (e.aliases.insert name path).find? name = some path
    rw [Table.find?_insert, if_pos rfl]
  · obtain ⟨r, hregister, hfind⟩ :=
      e.scripts.exists_register turns hname values
    let e' : Engine := { e with scripts := r }
    have hname' : e'.scripts.find? name
        = some ⟨turns.fresh, values.map Returned.toJson⟩ := by
      show r.find? name = _
      rw [hfind, if_pos rfl]
    refine ⟨e', by rw [registerScript, hregister], hname', ?_⟩
    intro data hmem
    obtain ⟨turns', -, hcalls⟩ :=
      exists_tried_of_mem (e := e') hmem hscript.parse_eq turns.extend data
    refine hcalls ?_
    rw [Alternative.eval_scriptRef_of_some turns' hname']
    exact List.mem_singleton_self name

theorem refuses_of_not_isIdentifier (hname : ¬ isIdentifier name = true) :
    e.Refuses turns name path values where
  aliasRefused := if_neg hname
  scriptRefused := by
    rw [registerScript, e.scripts.register_refused turns hname values]
  unnamed text :=
    ⟨fun h => hname (Expression.isIdentifier_of_mem_parse (.inl h)),
      fun h => hname (Expression.isIdentifier_of_mem_parse (.inr h))⟩

end Registration

/-- A name can be registered, for an alias or for a script, exactly if some
expression refers to it, and these names are the identifiers. What refers
to such a name reaches it; other names are refused. -/
theorem registered_iff_referable (e : Engine) (turns : Turns)
    (name path : Text) (values : List Returned) :
    ((∃ e', e.registerAlias name path = .ok e')
        ↔ ∃ text, .aliasRef name ∈ Expression.parse text)
      ∧ ((∃ made, e.registerScript turns name values = .ok made)
        ↔ ∃ text, .scriptRef name ∈ Expression.parse text)
      ∧ (isIdentifier name = true → e.Takes turns name path values)
      ∧ (¬ isIdentifier name = true →
        e.Refuses turns name path values) := by
  by_cases hname : isIdentifier name = true
  · have htakes := e.takes_of_isIdentifier turns path values hname
    obtain ⟨e', haliased, -⟩ := htakes.aliased
    obtain ⟨e'', hscripted, -⟩ := htakes.scripted
    refine ⟨iff_of_true ⟨e', haliased⟩ ⟨aliasMark ++ name, ?_⟩,
      iff_of_true ⟨_, hscripted⟩ ⟨scriptMark ++ name, ?_⟩,
      fun _ => htakes, fun hnot => absurd hname hnot⟩
    · rw [htakes.aliasRef.parse_eq]
      exact List.mem_singleton_self _
    · rw [htakes.scriptRef.parse_eq]
      exact List.mem_singleton_self _
  · have hrefuses := e.refuses_of_not_isIdentifier turns path values hname
    refine ⟨iff_of_false ?_ fun ⟨text, h⟩ => (hrefuses.unnamed text).1 h,
      iff_of_false ?_ fun ⟨text, h⟩ => (hrefuses.unnamed text).2 h,
      fun hyes => absurd hyes hname, fun _ => hrefuses⟩
    · rintro ⟨e', h⟩
      rw [hrefuses.aliasRefused] at h
      cases h
    · rintro ⟨made, h⟩
      rw [hrefuses.scriptRefused] at h
      cases h

/-- A name with an accent of its own is taken, and both references in the
template reach it; such an accent alone is refused. -/
theorem registered_iff_referable_accented :
    let e := Engine.new
      "$\x7b\u3000alias:e\u0301 \x7d$\x7bscript:e\u0301\x7d"
    let name : Text := ['e', '\u0301']
    isIdentifier name = true
      ∧ e.placeholders = [aliasMark ++ name, scriptMark ++ name]
      ∧ e.Takes [3] name "a.b" [.nan]
      ∧ ¬ isIdentifier ['\u0301'] = true
      ∧ e.Refuses [3] ['\u0301'] "a.b" [.nan] := by
  intro e name
  have hname : isIdentifier name = true := by decide +kernel
  have hnot : ¬ isIdentifier ['\u0301'] = true := by decide +kernel
  have htaken := registered_iff_referable e [3] name "a.b" [.nan]
  have hrefused := registered_iff_referable e [3] ['\u0301'] "a.b" [.nan]
  exact ⟨hname, by decide +kernel, htaken.2.2.1 hname, hnot,
    hrefused.2.2.2 hnot⟩

end Engine

end Stencil
