/-
Evaluation looks at nothing but what is referred to.

Two contexts, each with its turns, may differ in what no reference leads
to, and in how they number their scripts. They agree on a set of
alternatives (`Context.Agree`) if those that are no scripts come to the
same in both, and if a script referred to has the same values in both and
has been called equally often (`Registry.due?`).

# The argument

A script that is called moves its own count alone, since no two names
share one (`Registry.Counted`). So the names in the registry are due the
same as before, but for the name called (`Counted.call`), and contexts
that agree still do when both have called it. From alternatives this is
carried on to chains (`Agree.eval_expression`) and to pieces
(`Agree.renderPieces`): what is written, what fails, which scripts are
called and what is logged are the same.

Where the scripts are the same ones, less is needed: an alternative comes
to the same in contexts in which its name is found bound to the same and
the path that it follows leads to the same (`Alternative.eval_congr`), and
then a template does from the same turns (`Engine.pass_congr`).
-/
import Stencil.Engine.Render
import Stencil.Proofs.Registration

namespace Stencil

open Text

-- ================================================ statement vocabulary

/-- What the script of a name returns in turn, and how often it has been
called. -/
def Registry.due? (r : Registry) (turns : Turns) (name : Text) :
    Option (List Json × Nat) :=
  (r.find? name).map fun script => (script.values, turns.count script.id)

/-- Every script of the registry is counted, each on its own. -/
structure Registry.Counted (r : Registry) (turns : Turns) : Prop where
  lt_length : ∀ {name : Text} {script : Script},
    r.find? name = some script → script.id < turns.length
  name_eq : ∀ {name other : Text} {script script' : Script},
    r.find? name = some script → r.find? other = some script' →
    script.id = script'.id → name = other

/-- Two contexts, each with its turns, in which these alternatives find
the same. -/
structure Context.Agree (refs : Alternative → Prop) (ctx ctx' : Context)
    (turns turns' : Turns) : Prop where
  counted : ctx.scripts.Counted turns
  counted' : ctx'.scripts.Counted turns'
  eval_eq : ∀ a, refs a → (∀ name, a ≠ .scriptRef name) →
    a.eval ctx [] = a.eval ctx' []
  due_eq : ∀ name, refs (.scriptRef name) →
    ctx.scripts.due? turns name = ctx'.scripts.due? turns' name

/-- The same context for another document. -/
def Context.withRoot (ctx : Context) (root : Json) : Context :=
  { ctx with root := root }

/-- The same has come of it, with the same calls and the same log. -/
structure Effect.Alike {α : Type} (x y : Effect α) : Prop where
  result_eq : x.result = y.result
  calls_eq : x.calls = y.calls
  log_eq : x.log = y.log

/-- The same has been rendered, with the same calls and the same log. -/
structure Rendering.Alike (x y : Rendering) : Prop where
  text_eq : x.text = y.text
  failures_eq : x.failures = y.failures
  calls_eq : x.calls = y.calls
  log_eq : x.log = y.log

/-- The alternatives that a piece has. -/
def Piece.expression : Piece → Expression
  | literal _ => []
  | placeholder _ _ expression => expression

/-- The alternative stands in a placeholder of the engine's template. -/
def Engine.Refers (e : Engine) (a : Alternative) : Prop :=
  ∃ text ∈ e.placeholders, a ∈ Expression.parse text

/-- The path that an alternative follows: its own one, or the one that the
alias stands for. -/
inductive Alternative.Follows (aliases : Table Text) :
    Alternative → Path → Prop where
  | path (p : Path) : Follows aliases (.path p) p
  | target {name target : Text} {p : Path} :
      aliases.find? name = some target → Path.parse target = .ok p →
      Follows aliases (.aliasRef name) p

-- =========================================================== references

theorem Piece.refers_of_mem_ofSegments {offset : Nat}
    {segments : List Segment} {piece : Piece}
    (h : piece ∈ ofSegments offset segments) {a : Alternative}
    (ha : a ∈ piece.expression) :
    ∃ text ∈ (ofSegments offset segments).filterMap text?,
      a ∈ Expression.parse text := by
  induction segments generalizing offset with
  | nil => cases h
  | cons segment rest ih =>
    cases segment with
    | literal text =>
      rcases List.mem_cons.1 h with rfl | hrest
      · cases ha
      · exact ih hrest
    | placeholder raw expression span =>
      rcases List.mem_cons.1 h with rfl | hrest
      · exact ⟨expression, List.mem_cons_self .., ha⟩
      · obtain ⟨text, htext, hmem⟩ := ih hrest
        exact ⟨text, List.mem_cons_of_mem _ htext, hmem⟩

/-- The pieces of an engine have the alternatives that its template refers
to, and no others. -/
theorem Engine.refers_of_mem_pieces {e : Engine} {piece : Piece}
    (h : piece ∈ e.pieces) {a : Alternative} (ha : a ∈ piece.expression) :
    e.Refers a := by
  unfold Refers placeholders
  rw [e.compiled] at h ⊢
  exact Piece.refers_of_mem_ofSegments h ha

-- ========================================================== what is due

namespace Registry

variable {r r' : Registry} {turns : Turns} {name : Text}

theorem due?_eq {script : Script} (h : r.find? name = some script) :
    r.due? turns name = some (script.values, turns.count script.id) := by
  rw [due?, h]
  rfl

theorem counted_empty (turns : Turns) : Registry.empty.Counted turns :=
  ⟨fun h => (nomatch h), fun h => (nomatch h)⟩

/-- Other counts, of these scripts and more, do as well. -/
theorem Counted.mono {turns' : Turns} (h : r.Counted turns)
    (hle : turns.length ≤ turns'.length) : r.Counted turns' :=
  ⟨fun hfind => Nat.lt_of_lt_of_le (h.lt_length hfind) hle, h.name_eq⟩

section Adopt

variable {values : List Json} (h : r.Counted turns)
  (hfind : ∀ other, r'.find? other
    = if other = name then some ⟨turns.fresh, values⟩ else r.find? other)
include h hfind

/-- A script taken over goes on from the calls that it has had; nothing
else changes. -/
theorem due?_of_find? (called : Nat) (other : Text) :
    r'.due? (turns.extendBy called) other
      = if other = name then some (values, called)
        else r.due? turns other := by
  rw [due?, hfind]
  by_cases heq : other = name
  · rw [if_pos heq, if_pos heq, Option.map_some, Turns.count_extendBy,
      Turns.fresh, if_pos rfl]
  · rw [if_neg heq, if_neg heq, due?]
    refine Option.map_congr fun script hscript => ?_
    have hne : script.id ≠ turns.length := Nat.ne_of_lt (h.lt_length hscript)
    rw [Turns.count_extendBy, if_neg hne]

/-- It has a count of its own. -/
theorem Counted.of_find? (called : Nat) :
    r'.Counted (turns.extendBy called) := by
  have hold : ∀ {other script}, r'.find? other = some script →
      other = name ∧ script.id = turns.length
        ∨ r.find? other = some script ∧ script.id < turns.length := by
    intro other script hother
    rw [hfind] at hother
    by_cases heq : other = name
    · rw [if_pos heq] at hother
      cases hother
      exact .inl ⟨heq, rfl⟩
    · rw [if_neg heq] at hother
      exact .inr ⟨hother, h.lt_length hother⟩
  constructor
  · intro other script hother
    rw [Turns.length_extendBy]
    rcases hold hother with ⟨-, hid⟩ | ⟨-, hlt⟩
    · omega
    · omega
  · intro a b script script' ha hb hid
    rcases hold ha with ⟨rfl, hfresh⟩ | ⟨ha', hlt⟩
    · rcases hold hb with ⟨rfl, -⟩ | ⟨-, hlt'⟩
      · rfl
      · omega
    · rcases hold hb with ⟨-, hfresh'⟩ | ⟨hb', -⟩
      · omega
      · exact h.name_eq ha' hb' hid

end Adopt

/-- Taking over a script binds its name, and its count goes on. -/
theorem Counted.exists_adopt (h : r.Counted turns) (script : Prepared)
    (hname : isIdentifier script.name = true) :
    ∃ r', r.adopt turns script = .ok (r', turns.extendBy script.called)
      ∧ (∀ other, r'.due? (turns.extendBy script.called) other
          = if other = script.name then
              some (script.values.map Returned.toJson, script.called)
            else r.due? turns other)
      ∧ r'.Counted (turns.extendBy script.called) := by
  obtain ⟨r', hadopt, hfind⟩ := r.exists_adopt turns script hname
  exact ⟨r', hadopt, due?_of_find? h hfind script.called,
    .of_find? h hfind script.called⟩

/-- Making a script binds its name and starts its count. -/
theorem Counted.exists_register (h : r.Counted turns)
    (hname : isIdentifier name = true) (values : List Returned) :
    ∃ r', r.register turns name values = .ok (r', turns.extend)
      ∧ (∀ other, r'.due? turns.extend other
          = if other = name then some (values.map Returned.toJson, 0)
            else r.due? turns other)
      ∧ r'.Counted turns.extend :=
  h.exists_adopt ⟨name, values, 0⟩ hname

namespace Counted

variable {script : Script}

/-- A call is one more for the name called and for no other. -/
theorem due?_call (h : r.Counted turns) (hname : r.find? name = some script)
    (other : Text) :
    r.due? (script.call turns).2 other
      = if other = name then
          some (script.values, turns.count script.id + 1)
        else r.due? turns other := by
  show r.due? (turns.advance script.id) other = _
  have hlt := h.lt_length hname
  by_cases heq : other = name
  · subst heq
    rw [due?_eq hname, if_pos rfl, Turns.count_advance _ hlt, if_pos rfl]
  · rw [if_neg heq]
    cases hother : r.find? other with
    | none => rw [due?, due?, hother]; rfl
    | some script' =>
      have hne : script'.id ≠ script.id := fun hid =>
        heq (h.name_eq hother hname hid)
      rw [due?_eq hother, due?_eq hother, Turns.count_advance _ hlt,
        if_neg hne]

theorem call (h : r.Counted turns) (script : Script) :
    r.Counted (script.call turns).2 :=
  h.mono (Nat.le_of_eq (Turns.length_advance turns script.id).symm)

end Counted

end Registry

-- ======================================================= same contexts

/-- An alternative looks up the name that it has, and reads data by
walking along the path that it follows. -/
theorem Alternative.eval_congr {ctx ctx' : Context} {turns : Turns}
    {a : Alternative}
    (halias : ∀ name, a = .aliasRef name →
      ctx.aliases.find? name = ctx'.aliases.find? name)
    (hscript : ∀ name, a = .scriptRef name →
      ctx.scripts.find? name = ctx'.scripts.find? name)
    (hwalk : ∀ p, a.Follows ctx.aliases p →
      Path.walk ctx.jsonFields ctx.root p
        = Path.walk ctx'.jsonFields ctx'.root p) :
    a.eval ctx turns = a.eval ctx' turns := by
  have hfollow : ∀ p, a.Follows ctx.aliases p →
      ctx.follow turns p = ctx'.follow turns p := by
    intro p hp
    rw [Context.follow, Context.follow, hwalk p hp]
  cases a with
  | path p => exact hfollow p (.path p)
  | scriptRef name => simp only [eval, hscript name rfl]
  | invalid text why => rfl
  | aliasRef name =>
    simp only [eval, ← halias name rfl]
    cases hname : ctx.aliases.find? name with
    | none => rfl
    | some target =>
      cases htarget : Path.parse target with
      | error why => simp only [htarget]
      | ok p => simp only [htarget, hfollow p (.target hname htarget)]

/-- A chain comes to the same in contexts in which its alternatives do. -/
theorem Expression.eval_congr {ctx ctx' : Context} {x : Expression}
    (h : ∀ a ∈ x, ∀ turns, a.eval ctx turns = a.eval ctx' turns)
    (turns : Turns) : eval ctx turns x = eval ctx' turns x := by
  induction x generalizing turns with
  | nil => rfl
  | cons a rest ih =>
    obtain ⟨ha, hrest⟩ := List.forall_mem_cons.1 h
    rw [eval, eval, ha turns]
    cases (a.eval ctx' turns).result with
    | ok value => rfl
    | error reason => simp only [ih hrest]

namespace Engine

variable {e e' : Engine} (hsource : e.source = e'.source)
  (hblank : e.blankFailures = e'.blankFailures)
include hsource hblank

/-- So do pieces, one after the other. -/
theorem renderPieces_congr {ctx ctx' : Context} {pieces : List Piece}
    (h : ∀ piece ∈ pieces, ∀ a ∈ piece.expression, ∀ turns,
      a.eval ctx turns = a.eval ctx' turns) (turns : Turns) :
    e.renderPieces ctx turns pieces = e'.renderPieces ctx' turns pieces := by
  induction pieces generalizing turns with
  | nil => rfl
  | cons piece rest ih =>
    obtain ⟨hpiece, hrest⟩ := List.forall_mem_cons.1 h
    have hfirst : e.renderPiece ctx turns piece
        = e'.renderPiece ctx' turns piece := by
      cases piece with
      | literal span => simp only [renderPiece, hsource]
      | placeholder span text expression =>
        have heval : Expression.eval ctx turns expression
            = Expression.eval ctx' turns expression :=
          Expression.eval_congr hpiece turns
        simp only [renderPiece, heval, hsource, hblank]
    rw [renderPieces, renderPieces, hfirst, ih hrest]

/-- So does a whole template. -/
theorem pass_congr {data data' : Json}
    (h : ∀ a, e.Refers a → ∀ turns,
      a.eval (e.context data) turns = a.eval (e'.context data') turns)
    (turns : Turns) : e.pass turns data = e'.pass turns data' := by
  have hsame : e.pieces = e'.pieces := by
    rw [e.compiled, e'.compiled, hsource]
  have hpieces : e.renderPieces (e.context data) turns e.pieces
      = e'.renderPieces (e'.context data') turns e.pieces :=
    renderPieces_congr hsource hblank
      (fun piece hpiece a ha => h a (refers_of_mem_pieces hpiece ha)) turns
  unfold pass placeholders
  rw [hpieces, hsame]

end Engine

-- ========================================================== alternatives

namespace Context.Agree

variable {refs : Alternative → Prop} {ctx ctx' : Context}
  {turns turns' : Turns}

/-- A script referred to is there in both contexts or in neither; if it is
there, it has the same values and the same count. -/
theorem find?_cases (h : ctx.Agree refs ctx' turns turns') {name : Text}
    (hname : refs (.scriptRef name)) :
    (ctx.scripts.find? name = none ∧ ctx'.scripts.find? name = none)
      ∨ ∃ script script', ctx.scripts.find? name = some script
        ∧ ctx'.scripts.find? name = some script'
        ∧ script.values = script'.values
        ∧ turns.count script.id = turns'.count script'.id := by
  have hdue := h.due_eq name hname
  unfold Registry.due? at hdue
  cases hfind : ctx.scripts.find? name with
  | none =>
    rw [hfind] at hdue
    exact .inl ⟨rfl, Option.map_eq_none_iff.1 hdue.symm⟩
  | some script =>
    rw [hfind] at hdue
    obtain ⟨script', hfind', heq⟩ := Option.map_eq_some_iff.1 hdue.symm
    injection heq with hvalues hcount
    exact .inr ⟨script, script', rfl, hfind', hvalues.symm, hcount.symm⟩

/-- The agreement outlasts a call of a script in both contexts. -/
theorem call (h : ctx.Agree refs ctx' turns turns') {name : Text}
    {script script' : Script}
    (hfind : ctx.scripts.find? name = some script)
    (hfind' : ctx'.scripts.find? name = some script')
    (hvalues : script.values = script'.values)
    (hcount : turns.count script.id = turns'.count script'.id) :
    ctx.Agree refs ctx' (script.call turns).2 (script'.call turns').2 := by
  refine ⟨h.counted.call script, h.counted'.call script', h.eval_eq,
    fun other hother => ?_⟩
  rw [h.counted.due?_call hfind, h.counted'.due?_call hfind', hvalues, hcount,
    h.due_eq other hother]

theorem eval_alternative (h : ctx.Agree refs ctx' turns turns')
    {a : Alternative} (ha : refs a) :
    (a.eval ctx turns).Alike (a.eval ctx' turns')
      ∧ ctx.Agree refs ctx' (a.eval ctx turns).turns
          (a.eval ctx' turns').turns := by
  by_cases hscript : ∃ name, a = .scriptRef name
  · obtain ⟨name, rfl⟩ := hscript
    rcases h.find?_cases ha with ⟨hnone, hnone'⟩
      | ⟨script, script', hfind, hfind', hvalues, hcount⟩
    · rw [Alternative.eval_scriptRef_of_none turns hnone,
        Alternative.eval_scriptRef_of_none turns' hnone']
      exact ⟨⟨rfl, rfl, rfl⟩, h⟩
    · have hreturned : (script.call turns).1 = (script'.call turns').1 := by
        show script.value _ = script'.value _
        rw [Script.value, Script.value, hvalues, hcount]
      rw [Alternative.eval_scriptRef_of_some turns hfind,
        Alternative.eval_scriptRef_of_some turns' hfind']
      refine ⟨⟨?_, rfl, rfl⟩, h.call hfind hfind' hvalues hcount⟩
      simp only [hreturned]
  · have hplain : ∀ name, a ≠ .scriptRef name := fun name heq =>
      hscript ⟨name, heq⟩
    rw [Alternative.eval_of_not_script ctx turns hplain,
      Alternative.eval_of_not_script ctx' turns' hplain,
      h.eval_eq a ha hplain]
    exact ⟨⟨rfl, rfl, rfl⟩, h⟩

/-- A chain comes to the same if all its alternatives do. -/
theorem eval_expression (h : ctx.Agree refs ctx' turns turns')
    {x : Expression} (hx : ∀ a ∈ x, refs a) :
    (Expression.eval ctx turns x).Alike (Expression.eval ctx' turns' x)
      ∧ ctx.Agree refs ctx' (Expression.eval ctx turns x).turns
          (Expression.eval ctx' turns' x).turns := by
  induction x generalizing turns turns' with
  | nil => exact ⟨⟨rfl, rfl, rfl⟩, h⟩
  | cons a rest ih =>
    obtain ⟨ha, hrest⟩ := List.forall_mem_cons.1 hx
    obtain ⟨halike, hagree⟩ := h.eval_alternative ha
    cases hfirst : (a.eval ctx turns).result with
    | ok value =>
      have hfirst' := halike.result_eq.symm.trans hfirst
      rw [Expression.eval_cons_of_ok rest hfirst,
        Expression.eval_cons_of_ok rest hfirst']
      exact ⟨⟨rfl, halike.calls_eq, halike.log_eq⟩, hagree⟩
    | error reason =>
      have hfirst' := halike.result_eq.symm.trans hfirst
      obtain ⟨hothers, hagree'⟩ := ih hagree hrest
      rw [Expression.eval_cons_of_error rest hfirst,
        Expression.eval_cons_of_error rest hfirst']
      refine ⟨⟨?_, ?_, ?_⟩, hagree'⟩
      · simp only [hothers.result_eq]
      · simp only [halike.calls_eq, hothers.calls_eq]
      · simp only [halike.log_eq, hothers.log_eq]

-- ================================================================ pieces

variable {e e' : Engine}

/-- A piece is rendered the same. -/
theorem renderPiece (h : ctx.Agree refs ctx' turns turns')
    (hsource : e.source = e'.source)
    (hblank : e.blankFailures = e'.blankFailures) {piece : Piece}
    (hpiece : ∀ a ∈ piece.expression, refs a) :
    (e.renderPiece ctx turns piece).Alike (e'.renderPiece ctx' turns' piece)
      ∧ ctx.Agree refs ctx' (e.renderPiece ctx turns piece).turns
          (e'.renderPiece ctx' turns' piece).turns := by
  cases piece with
  | literal span =>
    refine ⟨⟨?_, rfl, rfl, rfl⟩, h⟩
    simp only [Engine.renderPiece, hsource]
  | placeholder span text expression =>
    rw [Piece.expression] at hpiece
    obtain ⟨halike, hagree⟩ := h.eval_expression hpiece
    cases hresult : (Expression.eval ctx turns expression).result with
    | ok value =>
      have hresult' := halike.result_eq.symm.trans hresult
      simp only [Engine.renderPiece, hresult, hresult']
      refine ⟨⟨rfl, rfl, halike.calls_eq, ?_⟩, hagree⟩
      simp only [halike.log_eq]
    | error reasons =>
      have hresult' := halike.result_eq.symm.trans hresult
      simp only [Engine.renderPiece, hresult, hresult']
      refine ⟨⟨?_, ?_, halike.calls_eq, halike.log_eq⟩, hagree⟩
      · simp only [hsource, hblank]
      · simp only [hsource]

/-- So are pieces, one after the other. -/
theorem renderPieces (h : ctx.Agree refs ctx' turns turns')
    (hsource : e.source = e'.source)
    (hblank : e.blankFailures = e'.blankFailures) {pieces : List Piece}
    (hpieces : ∀ piece ∈ pieces, ∀ a ∈ piece.expression, refs a) :
    (e.renderPieces ctx turns pieces).Alike
        (e'.renderPieces ctx' turns' pieces)
      ∧ ctx.Agree refs ctx' (e.renderPieces ctx turns pieces).turns
          (e'.renderPieces ctx' turns' pieces).turns := by
  induction pieces generalizing turns turns' with
  | nil => exact ⟨⟨rfl, rfl, rfl, rfl⟩, h⟩
  | cons piece rest ih =>
    obtain ⟨hpiece, hrest⟩ := List.forall_mem_cons.1 hpieces
    obtain ⟨hfirst, hagree⟩ := h.renderPiece hsource hblank hpiece
    obtain ⟨hothers, hagree'⟩ := ih hagree hrest
    refine ⟨⟨?_, ?_, ?_, ?_⟩, hagree'⟩
    · exact congrArg₂ (· ++ ·) hfirst.text_eq hothers.text_eq
    · exact congrArg₂ (· ++ ·) hfirst.failures_eq hothers.failures_eq
    · exact congrArg₂ (· ++ ·) hfirst.calls_eq hothers.calls_eq
    · exact congrArg₂ (· ++ ·) hfirst.log_eq hothers.log_eq

/-- So is a whole template. -/
theorem pass {data data' : Json}
    (h : (e.context data).Agree refs (e'.context data') turns turns')
    (hsource : e.source = e'.source)
    (hblank : e.blankFailures = e'.blankFailures)
    (hpieces : ∀ piece ∈ e.pieces, ∀ a ∈ piece.expression, refs a) :
    (e.pass turns data).Alike (e'.pass turns' data')
      ∧ (e.context data).Agree refs (e'.context data')
          (e.pass turns data).turns (e'.pass turns' data').turns := by
  have hsame : e.pieces = e'.pieces := by
    rw [e.compiled, e'.compiled, hsource]
  obtain ⟨halike, hagree⟩ := h.renderPieces hsource hblank hpieces
  unfold Engine.pass Engine.placeholders
  rw [← hsame]
  refine ⟨⟨halike.text_eq, halike.failures_eq, halike.calls_eq, ?_⟩, hagree⟩
  simp only [halike.log_eq, halike.failures_eq]

end Context.Agree

end Stencil
