/-
Documents that grow.

A document grows when its objects get more members and its arrays more
items at the end, at any depth, while all that was there stays, with
scalars as they were (`Grows`). A template whose placeholders all have a
value stays so: what a path leads to is still there and has only grown
itself.

# The argument

A walk goes along in both documents (`walkFrom_grows`). What a step leads
to in the one it leads to in the other, grown (`select_grows`), and since
a string does not grow, a field that holds JSON is decoded to the same
document in both (`land_grows`). A chain may come to another value in the
grown document, when an alternative has got a value that had none before;
but the one that had a value still has one, and to get there the same
scripts have been called, so that a chain that had a value has one
(`eval_grows`). Going through a whole template, this carries on as long
as no script is called: a chain that ends earlier calls fewer of them,
and the placeholders behind get other values.

Main statement: `valid_of_grows`.
-/
import Stencil.Proofs.Agreement
import Stencil.Proofs.Expansion
import Stencil.Proofs.Resumption

namespace Stencil

-- ================================================ statement vocabulary

/-- The second document is the first one with members and items added:
scalars are equal, an object has all the members, an array is as long or
longer, and what was there has grown in the same sense. -/
inductive Json.Grows : Json → Json → Prop where
  | null : Grows .null .null
  | bool (b : Bool) : Grows (.bool b) (.bool b)
  | int (i : Int) : Grows (.int i) (.int i)
  | float (x : Float) : Grows (.float x) (.float x)
  | string (s : Text) : Grows (.string s) (.string s)
  | array {items items' : List Json} :
    items.length ≤ items'.length →
      (∀ (n : Nat) (item item' : Json), items[n]? = some item →
        items'[n]? = some item' → Grows item item') →
      Grows (.array items) (.array items')
  | object {members members' : List (Text × Json)} :
    (∀ name, (members.lookup name).isSome →
        (members'.lookup name).isSome) →
      (∀ name child child', members.lookup name = some child →
        members'.lookup name = some child' → Grows child child') →
      Grows (.object members) (.object members')

-- ============================================================== growing

namespace Json

theorem sizeOf_lt_of_lookup {members : List (Text × Json)} {name : Text}
    {child : Json} (h : members.lookup name = some child) :
    sizeOf child < sizeOf members := by
  obtain ⟨before, after, rfl, -⟩ := List.lookup_eq_some_iff.1 h
  have hmem : (name, child) ∈ before ++ (name, child) :: after :=
    List.mem_append_right _ (List.mem_cons_self ..)
  have hlt := List.sizeOf_lt_of_mem hmem
  rw [Prod.mk.sizeOf_spec] at hlt
  omega

/-- A document grows into itself. -/
theorem Grows.refl : ∀ v : Json, v.Grows v
  | .null => .null
  | .bool b => .bool b
  | .int i => .int i
  | .float x => .float x
  | .string s => .string s
  | .array items => by
    refine .array (Nat.le_refl _) fun n item item' h h' => ?_
    obtain rfl : item = item' := Option.some.inj (h.symm.trans h')
    have hlt := List.sizeOf_lt_of_mem (List.mem_of_getElem? h)
    exact refl item
  | .object members => by
    refine .object (fun _ h => h) fun name child child' h h' => ?_
    obtain rfl : child = child' := Option.some.inj (h.symm.trans h')
    have hlt := sizeOf_lt_of_lookup h
    exact refl child
termination_by v => sizeOf v

/-- A document that has grown twice has grown. -/
theorem Grows.trans {u v w : Json} (huv : u.Grows v) (hvw : v.Grows w) :
    u.Grows w := by
  induction huv generalizing w with
  | null | bool b | int i | float x | string s => exact hvw
  | @array items items' hlength _ ih =>
    cases hvw with
    | @array _ items'' hlength' hitems' =>
      refine .array (Nat.le_trans hlength hlength') ?_
      intro n item item'' hitem hitem''
      obtain ⟨hn, -⟩ := List.getElem?_eq_some_iff.1 hitem
      have hbetween :=
        List.getElem?_eq_getElem (Nat.lt_of_lt_of_le hn hlength)
      apply ih n item _ hitem hbetween
      exact hitems' n _ item'' hbetween hitem''
  | @object members members' hnames _ ih =>
    cases hvw with
    | @object _ members'' hnames' hchildren' =>
      refine .object (fun name h => hnames' name (hnames name h)) ?_
      intro name child child'' hchild hchild''
      obtain ⟨between, hbetween⟩ := Option.isSome_iff_exists.1
        (hnames name (Option.isSome_of_eq_some hchild))
      apply ih name child between hchild hbetween
      exact hchildren' name between child'' hbetween hchild''

/-- An empty array grows into any other. -/
theorem Grows.array_nil (items : List Json) :
    Grows (.array []) (.array items) :=
  .array (Nat.zero_le _) fun n _ _ h _ => by cases h

/-- Arrays grow item by item. -/
theorem Grows.array_cons {item item' : Json} {items items' : List Json}
    (hitem : item.Grows item') (hrest : Grows (.array items) (.array items')) :
    Grows (.array (item :: items)) (.array (item' :: items')) := by
  cases hrest with
  | array hlength hitems =>
    refine .array (Nat.succ_le_succ hlength) fun n x x' h h' => ?_
    cases n with
    | zero =>
      cases h
      cases h'
      exact hitem
    | succ n => exact hitems n x x' h h'

/-- An empty object grows into any other. -/
theorem Grows.object_nil (members : List (Text × Json)) :
    Grows (.object []) (.object members) :=
  .object (fun name h => by cases h) fun name _ _ h _ => by cases h

/-- Objects grow member by member. -/
theorem Grows.object_cons {child child' : Json}
    {members members' : List (Text × Json)} (name : Text)
    (hchild : child.Grows child')
    (hrest : Grows (.object members) (.object members')) :
    Grows (.object ((name, child) :: members))
      (.object ((name, child') :: members')) := by
  cases hrest with
  | object hnames hchildren =>
    refine .object (fun other h => ?_) fun other x x' h h' => ?_
    · by_cases hother : other = name
      · subst hother
        simp only [List.lookup_cons_self, Option.isSome_some]
      · have hne : (other == name) = false := by simpa using hother
        simp only [List.lookup_cons, hne] at h ⊢
        exact hnames other h
    · by_cases hother : other = name
      · subst hother
        rw [List.lookup_cons_self] at h h'
        cases h
        cases h'
        exact hchild
      · have hne : (other == name) = false := by simpa using hother
        simp only [List.lookup_cons, hne] at h h'
        exact hchildren other x x' h h'

theorem Grows.isNull_eq {v v' : Json} (h : v.Grows v') :
    v'.isNull = v.isNull := by
  cases h <;> rfl

end Json

-- ================================================================ walks

namespace Path

variable {v v' : Json}

/-- A step leads to what it has led to, grown. -/
theorem select_grows (h : v.Grows v') {step : Step} {child : Json}
    (hselect : select v step = .ok child) :
    ∃ child', select v' step = .ok child' ∧ child.Grows child' := by
  cases h with
  | null | bool b | int i | float x | string s =>
    cases step <;> cases hselect
  | @array items items' hlength hitems =>
    cases step with
    | field name => cases hselect
    | index i =>
      cases i with
      | negSucc n => cases hselect
      | ofNat n =>
        cases hitem : items[n]? with
        | none =>
          simp only [select, hitem] at hselect
          cases hselect
        | some item =>
          simp only [select, hitem] at hselect
          cases hselect
          obtain ⟨hn, -⟩ := List.getElem?_eq_some_iff.1 hitem
          have hitem' :=
            List.getElem?_eq_getElem (Nat.lt_of_lt_of_le hn hlength)
          refine ⟨_, ?_, hitems n child _ hitem hitem'⟩
          simp only [select, hitem']
  | @object members members' hnames hchildren =>
    cases step with
    | index i => cases hselect
    | field name =>
      cases hlookup : members.lookup name with
      | none =>
        simp only [select, hlookup] at hselect
        cases hselect
      | some found =>
        simp only [select, hlookup] at hselect
        cases hselect
        obtain ⟨child', hlookup'⟩ := Option.isSome_iff_exists.1
          (hnames name (Option.isSome_of_eq_some hlookup))
        refine ⟨child', ?_, hchildren name child child' hlookup hlookup'⟩
        simp only [select, hlookup']

variable {jsonFields : List Text}

/-- A string holds what it has held, and nothing else is decoded. -/
theorem land_grows (h : v.Grows v') (step : Step) :
    (land jsonFields step v).1.Grows (land jsonFields step v').1 := by
  by_cases hstring : ∃ s, v = .string s
  · obtain ⟨s, rfl⟩ := hstring
    cases h
    exact .refl _
  · have hplain : ∀ s, v ≠ .string s := fun s hs => hstring ⟨s, hs⟩
    have hplain' : ∀ s, v' ≠ .string s := by
      rintro s rfl
      cases h
      exact hplain s rfl
    rw [land_of_not_string step hplain, land_of_not_string step hplain']
    exact h

/-- So a path leads to what it has led to, grown, whatever has failed to
decode on the way. -/
theorem walkFrom_grows (h : v.Grows v')
    (pending pending' : Option Undecoded) {path : Path} {x : Json}
    (hwalk : (walkFrom jsonFields pending v path).outcome = .ok x) :
    ∃ x', (walkFrom jsonFields pending' v' path).outcome = .ok x'
      ∧ x.Grows x' := by
  induction path generalizing v v' pending pending' with
  | nil =>
    rw [walkFrom] at hwalk ⊢
    rw [h.isNull_eq]
    by_cases hnull : v.isNull = true
    · simp only [if_pos hnull] at hwalk
      cases hwalk
    · simp only [if_neg hnull] at hwalk ⊢
      cases hwalk
      exact ⟨v', rfl, h⟩
  | cons step path ih =>
    cases hselect : select v step with
    | error reason =>
      rw [walkFrom_cons_of_refused path hselect] at hwalk
      cases hwalk
    | ok child =>
      obtain ⟨child', hselect', hchild⟩ := select_grows h hselect
      rw [walkFrom_cons_of_select path hselect] at hwalk
      rw [walkFrom_cons_of_select path hselect']
      exact ih (land_grows hchild step) _ _ hwalk

theorem resolve_grows (h : v.Grows v') {path : Path} {x : Json}
    (hresolve : resolve jsonFields v path = .ok x) :
    ∃ x', resolve jsonFields v' path = .ok x' ∧ x.Grows x' :=
  walkFrom_grows h none none hresolve

end Path

-- =========================================================== evaluating

section Evaluating

variable {ctx : Context} {root : Json} (h : ctx.root.Grows root)

/-- Which scripts an alternative calls does not depend on the document. -/
theorem Alternative.turns_withRoot (a : Alternative) (turns : Turns) :
    (a.eval (ctx.withRoot root) turns).turns = (a.eval ctx turns).turns := by
  by_cases hscript : ∃ name, a = .scriptRef name
  · obtain ⟨name, rfl⟩ := hscript
    rfl
  · have hplain : ∀ name, a ≠ .scriptRef name := fun name heq =>
      hscript ⟨name, heq⟩
    rw [eval_of_not_script _ turns hplain, eval_of_not_script _ turns hplain]

include h

/-- An alternative with a value has one in the grown document. -/
theorem Alternative.eval_grows {a : Alternative} {turns : Turns} {v : Json}
    (hv : (a.eval ctx turns).result = .ok v) :
    ∃ v', (a.eval (ctx.withRoot root) turns).result = .ok v'
      ∧ v.Grows v' := by
  cases a with
  | path p => exact Path.resolve_grows h hv
  | scriptRef name => exact ⟨v, hv, .refl v⟩
  | invalid text why => cases hv
  | aliasRef name =>
    cases hname : ctx.aliases.find? name with
    | none =>
      simp only [eval, hname] at hv
      cases hv
    | some target =>
      cases htarget : Path.parse target with
      | error why =>
        simp only [eval, hname, htarget] at hv
        cases hv
      | ok p =>
        simp only [eval, hname, htarget] at hv
        obtain ⟨v', hv', hgrows⟩ := Path.resolve_grows h hv
        refine ⟨v', ?_, hgrows⟩
        simp only [eval, Context.withRoot, hname, htarget]
        exact hv'

/-- So has a chain, though it may be another alternative that gives it. -/
theorem Expression.eval_grows {x : Expression} {turns : Turns} {v : Json}
    (hv : (eval ctx turns x).result = .ok v) :
    ∃ v', (eval (ctx.withRoot root) turns x).result = .ok v' := by
  induction x generalizing turns v with
  | nil => cases hv
  | cons a rest ih =>
    cases hfirst' : (a.eval (ctx.withRoot root) turns).result with
    | ok v' =>
      rw [eval_cons_of_ok rest hfirst']
      exact ⟨v', rfl⟩
    | error reason' =>
      cases hfirst : (a.eval ctx turns).result with
      | ok value =>
        obtain ⟨v', hv', -⟩ := Alternative.eval_grows h hfirst
        rw [hfirst'] at hv'
        cases hv'
      | error reason =>
        rw [eval_cons_of_error rest hfirst] at hv
        rw [eval_cons_of_error rest hfirst', Alternative.turns_withRoot]
        cases hrest : (eval ctx (a.eval ctx turns).turns rest).result with
        | error reasons =>
          simp only [hrest] at hv
          cases hv
        | ok value =>
          obtain ⟨v', hv'⟩ := ih hrest
          refine ⟨v', ?_⟩
          simp only [hv', mapError_ok]

/-- What has no value in the grown document has had none before. -/
theorem Context.value?_eq_none_of_grows {turns : Turns} {text : Text}
    (hnone : (ctx.withRoot root).value? turns text = none) :
    ctx.value? turns text = none := by
  cases hresult : (Expression.eval ctx turns
      (Expression.parse text)).result with
  | error reasons =>
    rw [value?, hresult]
    rfl
  | ok v =>
    obtain ⟨v', hv'⟩ := Expression.eval_grows h hresult
    rw [value?, hv'] at hnone
    cases hnone

end Evaluating

-- ============================================================ rendering

namespace Engine

variable {e : Engine} {data data' : Json}

/-- A rendering without scripts fails for the placeholders without a
value. -/
theorem marks_pass (hscripts : Scriptless e.source) (turns : Turns)
    (data : Json) :
    (e.pass turns data).failures.map Failure.mark
      = (marks e.source).filter
          (fun m => ((e.context data).value? turns m.2).isNone) := by
  have hfailures : (Interpreter.interpret (e.context data)
      e.blankFailures turns e.source).failures
        = (e.pass turns data).failures :=
    congrArg Transcript.failures (e.interpret_eq_pass turns data)
  rw [← hfailures]
  exact Interpreter.foldl_step_marks (e.context data) e.blankFailures turns
    ⟨[], [], [], turns⟩ hscripts

/-- A validated rendering gives a text if there are no failures. -/
theorem exists_render_eq_ok_iff (e : Engine) (turns : Turns) (data : Json) :
    (∃ text, (e.render turns data true).1.result = .ok text)
      ↔ (e.pass turns data).failures = [] := by
  rw [(e.renders_interpret turns data).result_eq, interpret_eq_pass]
  cases (e.pass turns data).failures with
  | nil => exact ⟨fun _ => rfl, fun _ => ⟨_, rfl⟩⟩
  | cons failure rest =>
    constructor
    · rintro ⟨text, htext⟩
      cases htext
    · intro hnil
      cases hnil

/-- Let a document have grown into another one. Every path that has led
to a value leads to that value, grown. Every text that could stand in a
placeholder and has no value for the grown document, tried from the same
turns, has had none before. And let no placeholder refer to a script:
whatever the turns are, the failures of a rendering are the placeholders
without a value; those for the grown document are among those before; and
if a validated rendering has given a text, so does one of the grown
document. -/
theorem valid_of_grows (h : data.Grows data') :
    (∀ jsonFields path v, Path.resolve jsonFields data path = .ok v →
        ∃ v', Path.resolve jsonFields data' path = .ok v' ∧ v.Grows v')
      ∧ (∀ (e : Engine) turns text,
        (e.context data').value? turns text = none →
          (e.context data).value? turns text = none)
      ∧ ∀ e : Engine, Scriptless e.source → ∀ turns turns' validate,
        let fails := fun m : Mark =>
          ((e.context data).value? turns m.2).isNone
        let fails' := fun m : Mark =>
          ((e.context data').value? turns' m.2).isNone
        (e.render turns data validate).2.failures.map Failure.mark
            = (marks e.source).filter fails
          ∧ (e.render turns' data' validate).2.failures.map Failure.mark
            = (marks e.source).filter fails'
          ∧ (∀ m ∈ marks e.source, fails' m → fails m)
          ∧ ∀ text, (e.render turns data true).1.result = .ok text →
            ∃ text', (e.render turns' data' true).1.result = .ok text' := by
  have hvalue : ∀ (e : Engine) turns text,
      (e.context data').value? turns text = none →
        (e.context data).value? turns text = none := by
    intro e turns text hnone
    have hroot : (e.context data).root.Grows data' := h
    exact Context.value?_eq_none_of_grows hroot hnone
  refine ⟨fun jsonFields path v => Path.resolve_grows h, hvalue, ?_⟩
  intro e hscripts turns turns' validate fails fails'
  have hfails : ∀ m ∈ marks e.source, fails' m → fails m := by
    intro m hm hnone
    have hsame : (e.context data').value? turns' m.2
        = (e.context data').value? turns m.2 :=
      Context.value?_of_scriptless _ turns' turns (hscripts m hm)
    rw [Option.isNone_iff_eq_none, hsame] at hnone
    exact Option.isNone_iff_eq_none.2 (hvalue e turns m.2 hnone)
  have hmarks := marks_pass hscripts turns data
  have hmarks' := marks_pass hscripts turns' data'
  refine ⟨hmarks, hmarks', hfails, fun text htext => ?_⟩
  have hnone := (e.exists_render_eq_ok_iff turns data).1 ⟨text, htext⟩
  refine (e.exists_render_eq_ok_iff turns' data').2 ?_
  rw [hnone, List.map_nil, eq_comm, List.filter_eq_nil_iff] at hmarks
  rw [← List.map_eq_nil_iff, hmarks', List.filter_eq_nil_iff]
  exact fun m hm hnone => hmarks m hm (hfails m hm hnone)

/-- A template is valid for a document that has grown, where a chain gets
its value from another alternative than before. -/
theorem valid_of_grows_with_earlier_alternative :
    let e : Engine :=
      { withJsonFields "$\x7bx ?? l[0]\x7d $\x7ba.k\x7d $\x7balias:n\x7d"
          [['a']] with
        aliases := (∅ : Table Text).insert ['n'] ['l', '[', '0', ']'] }
    let encoded := Json.string "\x7b\x22k\x22:1\x7d"
    let data := Json.object [(['a'], encoded), (['l'], .array [.int 2])]
    let data' := Json.object
      [(['a'], encoded), (['l'], .array [.int 2, .null]),
        (['x'], .bool true)]
    data.Grows data' ∧ Scriptless e.source
      ∧ (e.render [] data true).1.result.toOption
        = some (String.toList "2 1 2")
      ∧ (∃ text', (e.render [] data' true).1.result = .ok text')
      ∧ (e.render [] data' true).1.result.toOption
        = some (String.toList "true 1 2") := by
  intro e encoded data data'
  have hgrows : data.Grows data' :=
    .object_cons _ (.refl encoded)
      (.object_cons _ (.array_cons (.int 2) (.array_nil _))
        (.object_nil _))
  have hmarks : (marks e.source).map
        (fun m => Expression.parse m.2)
      = [[.path [.field ['x']], .path [.field ['l'], .index 0]],
        [.path [.field ['a'], .field ['k']]], [.aliasRef ['n']]] := by
    decide +kernel
  have hscripts : Scriptless e.source := by
    intro m hm name
    have hx := List.mem_map_of_mem (f := fun m => Expression.parse m.2) hm
    rw [hmarks] at hx
    generalize Expression.parse m.2 = x at hx ⊢
    simp only [List.mem_cons, List.not_mem_nil, or_false] at hx
    rcases hx with rfl | rfl | rfl <;> simp
  have hbefore : (e.render [] data true).1.result.toOption
      = some (String.toList "2 1 2") := by
    decide +kernel
  have hrender : ∃ text, (e.render [] data true).1.result = .ok text := by
    cases hresult : (e.render [] data true).1.result with
    | ok text => exact ⟨text, rfl⟩
    | error why =>
      rw [hresult] at hbefore
      cases hbefore
  obtain ⟨text, htext⟩ := hrender
  exact ⟨hgrows, hscripts, hbefore,
    ((valid_of_grows hgrows).2.2 e hscripts [] [] true).2.2.2 text htext,
    by decide +kernel⟩

end Engine

end Stencil
