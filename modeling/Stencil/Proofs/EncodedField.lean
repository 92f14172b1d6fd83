/-
A member that holds its value as JSON in a string.

Under the name of a field that holds JSON, a value can stand in a document
as it is or printed into a string, and no template can tell which. Two
things bear this. What the string holds is read as the value it was
printed from, which `read_print` settles; and a walk never sees the root
of a document itself, since a path has a first step, so that the string
is always come to by the name of the field, and decoded (`walk_encoded`).

From walks the sameness goes up to alternatives, which read data in no
other way, and from there to the pass over a template.

Main statement: `render_encoded`.
-/
import Stencil.Proofs.Expansion
import Stencil.Proofs.Footprint
import Stencil.Proofs.JsonRoundTrip

namespace Stencil

-- ================================================ statement vocabulary

/-- An object with a value for one more member, or another one for it. -/
def Json.withMember (members : Table Json) (name : Text) (value : Json) :
    Json :=
  .object (members.insert name value).entries

/-- No path leads from the one document to anything but what it leads to
from the other one. -/
def Json.SameWalks (jsonFields : List Text) (v w : Json) : Prop :=
  ∀ step path,
    Path.walk jsonFields v (step :: path)
      = Path.walk jsonFields w (step :: path)

-- ================================================================ walks

namespace Path

variable {jsonFields : List Text}

/-- Walks that start at the same member, whatever it is bound to, go on
alike if they land at the same value. -/
theorem walk_withMember {members : Table Json} {name : Text} {v w : Json}
    (h : land jsonFields (.field name) v = land jsonFields (.field name) w) :
    Json.SameWalks jsonFields (Json.withMember members name v)
      (Json.withMember members name w) := by
  intro step path
  cases step with
  | index i => rfl
  | field other =>
    have hlookup : ∀ value, (members.insert name value).entries.lookup other
        = if other = name then some value else members.find? other :=
      fun value => Table.find?_insert members name other value
    by_cases hname : other = name
    · subst hname
      simp only [if_true] at hlookup
      simp only [walk, walkFrom, select, Json.withMember, hlookup, h]
    · simp only [if_neg hname] at hlookup
      simp only [walk, walkFrom, select, Json.withMember, hlookup]

/-- Under the name of a field that holds JSON, a value is walked through
alike as it is and as a string. -/
theorem walk_encoded {members : Table Json} {name : Text} {v : Json}
    (hname : name ∈ jsonFields) (hstring : ∀ s, v ≠ .string s)
    (hread : Json.read v.display = .ok v) :
    Json.SameWalks jsonFields (Json.withMember members name v)
      (Json.withMember members name (.string v.display)) := by
  refine walk_withMember ?_
  rw [land_of_not_string _ hstring,
    land_of_decodes ⟨v.display, hname, rfl, hread⟩]

end Path

-- =========================================================== evaluating

/-- No alternative that can be written tells the documents apart. -/
theorem Alternative.eval_withRoot {ctx : Context} {root : Json}
    (h : Json.SameWalks ctx.jsonFields ctx.root root) (t : Text)
    (turns : Turns) :
    (parse t).eval ctx turns = (parse t).eval (ctx.withRoot root) turns := by
  refine eval_congr (fun _ _ => rfl) (fun _ _ => rfl) fun p hp => ?_
  obtain ⟨text, hwritten⟩ := hp.written
  obtain ⟨step, path, rfl⟩ := List.exists_cons_of_ne_nil hwritten.ne_nil
  exact h step path

-- ============================================================ rendering

namespace Engine

variable {e : Engine}

/-- Documents that no path tells apart are rendered alike. -/
theorem pass_of_sameWalks {v w : Json}
    (h : Json.SameWalks e.jsonFields v w) (turns : Turns) :
    e.pass turns v = e.pass turns w := by
  refine pass_congr rfl rfl (fun a ha => ?_) turns
  obtain ⟨text, -, hmem⟩ := ha
  obtain ⟨piece, -, rfl⟩ := List.mem_map.1 hmem
  have hsame : Json.SameWalks (e.context v).jsonFields (e.context v).root w :=
    h
  exact Alternative.eval_withRoot hsame piece

/-- Let a name be one of the fields that hold JSON, and a value be no
string, hold no floating-point number, and nest no deeper than the reader
allows. The value is read from the text that a rendering shows for it,
and wherever it is the value of a member of that name, it makes no
difference to a rendering if that text stands there in a string. -/
theorem render_encoded {name : Text} {v : Json}
    (hname : name ∈ e.jsonFields) (hstring : ∀ s, v ≠ .string s)
    (hwf : v.WellFormed) (hfl : v.Floatless) (hdepth : v.depth ≤ 127)
    (members : Table Json) (turns : Turns) :
    let plain := Json.withMember members name v
    let encoded := Json.withMember members name (.string v.display)
    Json.read v.display = .ok v
      ∧ e.renderLossy turns plain = e.renderLossy turns encoded
      ∧ ∀ validate, e.render turns plain validate
          = e.render turns encoded validate := by
  have hdisplay : v.display = v.print := by
    cases v with
    | string s => exact absurd rfl (hstring s)
    | null | bool b | int i | float x | array items | object members => rfl
  have hread : Json.read v.display = .ok v := by
    rw [hdisplay]
    exact Json.read_print hwf hfl hdepth
  intro plain encoded
  have hpass : e.pass turns plain = e.pass turns encoded :=
    pass_of_sameWalks (Path.walk_encoded hname hstring hread) turns
  refine ⟨hread, ?_, fun validate => ?_⟩
  · rw [renderLossy, hpass]
    rfl
  · rw [render, hpass]
    rfl

theorem render_encoded_extremes :
    let e := Engine.withJsonFields "$\x7ba.k[2] ?? a.n\x7d" [['a']]
    let v : Json := .object [(['k'], .array [.int (-0x8000000000000000),
      .int 0xFFFFFFFFFFFFFFFF, .string ['"', '\n', '\x01', 'ü']])]
    ['a'] ∈ e.jsonFields
      ∧ (∀ s, v ≠ .string s) ∧ v.WellFormed ∧ v.Floatless ∧ v.depth ≤ 127
      ∧ ∀ members turns,
        e.renderLossy turns (Json.withMember members ['a'] v)
          = e.renderLossy turns
              (Json.withMember members ['a'] (.string v.display)) := by
  intro e v
  have hname : ['a'] ∈ e.jsonFields := by decide
  have hstring : ∀ s, v ≠ .string s := by
    intro s
    simp [v]
  have hwf : v.WellFormed := by
    simp [v, Json.WellFormed, Json.MembersWellFormed, Json.AllWellFormed,
      Json.isWhole, Ascending]
  have hfl : v.Floatless := by
    simp [v, Json.Floatless, Json.MembersFloatless, Json.AllFloatless]
  have hdepth : v.depth ≤ 127 := by
    decide
  exact ⟨hname, hstring, hwf, hfl, hdepth, fun members turns =>
    (render_encoded hname hstring hwf hfl hdepth members turns).2.1⟩

end Engine

end Stencil
