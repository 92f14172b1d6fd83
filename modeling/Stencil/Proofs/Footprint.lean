/-
What a rendering looks at.

Data is looked at by walking into it along a path, and a template has only
so many paths: those that are written in its placeholders, and those that
the aliases there stand for (`Engine.Follows`). Of the root, a walk looks
up the one member that its path starts with; and whether a name is that
of a field that holds JSON matters where the path has the name. What else
there is in a document or among the fields cannot be seen: not in the
text, nor in a failure, a script call or the log.

# The argument

A walk is the same for fields that agree on the names of its path
(`walkFrom_congr`), and from roots that agree on its first name
(`walk_congr`). The root itself is not seen, since every path that can be
written has a first name (`Follows.written`). An alternative comes to the
same where its walks do (`Alternative.eval_congr`), and from alternatives
`pass_congr` goes on to templates.

Main statement: `render_footprint`.
-/
import Stencil.Proofs.Agreement
import Stencil.Proofs.Grammar

namespace Stencil

open Text

-- ================================================ statement vocabulary

/-- Rendering with the engine may follow the path. -/
def Engine.Follows (e : Engine) (p : Path) : Prop :=
  ∃ a, e.Refers a ∧ a.Follows e.aliases p

/-- The engine with other fields that hold JSON. -/
def Engine.withFields (e : Engine) (jsonFields : List Text) : Engine :=
  { e with jsonFields := jsonFields }

/-- One engine renders one document as the other does the other: with the
same text, failures, script calls, turns and log, validated or not. -/
structure Engine.RendersSame (e : Engine) (data : Json) (e' : Engine)
    (data' : Json) : Prop where
  lossy_eq : ∀ turns,
    (e.renderLossy turns data).1 = (e'.renderLossy turns data').1
  lossy_failures_eq : ∀ turns,
    (e.renderLossy turns data).2.failures
      = (e'.renderLossy turns data').2.failures
  render_eq : ∀ turns validate,
    (e.render turns data validate).1 = (e'.render turns data' validate).1
  render_failures_eq : ∀ turns validate,
    (e.render turns data validate).2.failures
      = (e'.render turns data' validate).2.failures

-- ================================================================ walks

namespace Path

/-- A walk asks for no member of the root but the first one on its path. -/
theorem walk_congr {jsonFields jsonFields' : List Text}
    {members members' : List (Text × Json)} {name : Text} {steps : Path}
    (hroot : members.lookup name = members'.lookup name)
    (h : ∀ other, .field other ∈ .field name :: steps →
      (other ∈ jsonFields ↔ other ∈ jsonFields')) :
    walk jsonFields (.object members) (.field name :: steps)
      = walk jsonFields' (.object members') (.field name :: steps) := by
  unfold walk
  rw [walkFrom_congr h]
  simp only [walkFrom, select, hroot]

end Path

-- ========================================================= alternatives

/-- A path alternative has been read from a written path. -/
theorem Alternative.written_of_parse {t : Text} {p : Path}
    (h : parse t = .path p) : ∃ text, Path.Written text p := by
  rcases parse_cases t with ⟨_, -, hparse⟩ | ⟨_, -, hparse⟩
    | ⟨q, hq, hparse⟩ | ⟨_, hparse⟩ <;> rw [hparse] at h <;> cases h
  exact ⟨_, Path.written_of_parse hq⟩

/-- What an alternative follows is what is written somewhere. -/
theorem Alternative.Follows.written {aliases : Table Text} {t : Text}
    {p : Path} (h : (parse t).Follows aliases p) :
    ∃ text, Path.Written text p := by
  generalize hparse : parse t = a at h
  cases h with
  | path => exact Alternative.written_of_parse hparse
  | target _ htarget => exact ⟨_, Path.written_of_parse htarget⟩

namespace Engine

variable {e e' : Engine}

theorem Follows.written {p : Path} (h : e.Follows p) :
    ∃ text, Path.Written text p := by
  obtain ⟨a, ⟨text, -, ha⟩, hp⟩ := h
  obtain ⟨piece, -, rfl⟩ := List.mem_map.1 ha
  exact Alternative.Follows.written hp

-- ============================================================ rendering

theorem RendersSame.of_pass {data data' : Json}
    (h : ∀ turns, e.pass turns data = e'.pass turns data') :
    e.RendersSame data e' data' := by
  refine ⟨fun turns => ?_, fun turns => ?_, fun turns validate => ?_,
    fun turns validate => ?_⟩
  · rw [renderLossy, renderLossy, h turns]
  · rw [renderLossy, renderLossy, h turns]
    rfl
  · rw [render, render, h turns]
  · rw [render, render, h turns]
    rfl

/-- Engines that differ in their fields alone render the same where all
the walks come to the same. -/
theorem rendersSame_of_walk {jsonFields : List Text} {data data' : Json}
    (h : ∀ p, e.Follows p →
      Path.walk e.jsonFields data p = Path.walk jsonFields data' p) :
    e.RendersSame data (e.withFields jsonFields) data' := by
  have hsource : e.source = (e.withFields jsonFields).source := rfl
  have hblank : e.blankFailures = (e.withFields jsonFields).blankFailures :=
    rfl
  refine .of_pass (pass_congr hsource hblank fun a ha turns => ?_)
  exact Alternative.eval_congr (fun _ _ => rfl) (fun _ _ => rfl)
    fun p hp => h p ⟨a, ha, hp⟩

/-- A rendering looks up those members of the root that a path followed
starts with, and asks of those names on such paths whether they are fields
that hold JSON; it sees nothing else. So fields are given in any order and
as often as one likes, names that are no identifiers are no fields, and a
member that no path starts with is not seen. -/
theorem render_footprint (e : Engine) :
    (∀ (members members' : List (Text × Json)) (jsonFields : List Text),
        (∀ name steps, e.Follows (.field name :: steps) →
          members.lookup name = members'.lookup name) →
        (∀ p, e.Follows p → ∀ name, .field name ∈ p →
          (name ∈ e.jsonFields ↔ name ∈ jsonFields)) →
        e.RendersSame (.object members) (e.withFields jsonFields)
          (.object members'))
      ∧ (∀ (data : Json) (jsonFields : List Text),
        (∀ name, isIdentifier name = true →
          (name ∈ e.jsonFields ↔ name ∈ jsonFields)) →
        e.RendersSame data (e.withFields jsonFields) data)
      ∧ ∀ (members : Table Json) (name : Text) (value : Json),
        (∀ steps, ¬ e.Follows (.field name :: steps)) →
        e.RendersSame (.object members.entries) e
          (.object (members.insert name value).entries) := by
  have hwalk : ∀ (members members' : List (Text × Json))
      (jsonFields : List Text),
      (∀ name steps, e.Follows (.field name :: steps) →
        members.lookup name = members'.lookup name) →
      (∀ p, e.Follows p → ∀ name, .field name ∈ p →
        (name ∈ e.jsonFields ↔ name ∈ jsonFields)) →
      e.RendersSame (.object members) (e.withFields jsonFields)
        (.object members') := by
    intro members members' jsonFields hroot hfields
    refine rendersSame_of_walk fun p hp => ?_
    obtain ⟨text, hwritten⟩ := hp.written
    cases hwritten with
    | @intro name t steps hname hsteps =>
      exact Path.walk_congr (hroot name steps hp) (hfields _ hp)
  refine ⟨hwalk, fun data jsonFields hfields => ?_,
    fun members name value hname => ?_⟩
  · refine rendersSame_of_walk fun p hp => ?_
    obtain ⟨text, hwritten⟩ := hp.written
    exact Path.walkFrom_congr
      (fun name hmem => hfields name (hwritten.isIdentifier_of_mem hmem))
      none data
  · refine hwalk _ _ e.jsonFields (fun other steps hother => ?_)
      fun _ _ _ _ => Iff.rfl
    have hne : other ≠ name := fun heq => hname steps (heq ▸ hother)
    exact ((Table.find?_insert members name other value).trans
      (if_neg hne)).symm

/-- A member and fields that no path names make no difference, where a
field is decoded and an alias is followed. -/
theorem render_footprint_beside_others :
    let e : Engine :=
      { withJsonFields "$\x7ba.b ?? alias:x\x7d" [['a']] with
        aliases :=
          ((∅ : Table Text).insert ['x'] ['c', '[', '0', ']']).insert ['y']
            ['d'] }
    let members : List (Text × Json) :=
      [(['a'], .string "\x7b\x22b\x22:null\x7d"),
        (['c'], .array [.int 7])]
    let members' := members ++ [(['d'], .bool true)]
    let jsonFields : List Text := [['1'], ['d'], ['a'], ['a']]
    (∀ name steps, e.Follows (.field name :: steps) →
        members.lookup name = members'.lookup name)
      ∧ (∀ p, e.Follows p → ∀ name, .field name ∈ p →
        (name ∈ e.jsonFields ↔ name ∈ jsonFields))
      ∧ e.RendersSame (.object members) (e.withFields jsonFields)
          (.object members')
      ∧ ((e.withFields jsonFields).renderLossy [] (.object members')).1.result
        = ['7'] := by
  intro e members members' jsonFields
  have hplaceholders : e.placeholders = ["a.b ?? alias:x".toList] := by
    decide +kernel
  have hparse : Expression.parse "a.b ?? alias:x"
      = [.path [.field ['a'], .field ['b']], .aliasRef ['x']] := by
    decide +kernel
  have hfollows : ∀ p, e.Follows p →
      p = [.field ['a'], .field ['b']] ∨ p = [.field ['c'], .index 0] := by
    rintro p ⟨a, ⟨text, htext, ha⟩, hp⟩
    rw [hplaceholders] at htext
    obtain rfl := List.mem_singleton.1 htext
    rw [hparse] at ha
    rcases List.mem_cons.1 ha with rfl | ha
    · cases hp
      exact .inl rfl
    · obtain rfl := List.mem_singleton.1 ha
      cases hp with
      | target hfind htarget =>
        obtain rfl := Option.some.inj hfind
        have hc : (Path.parse ['c', '[', '0', ']']).toOption
            = some [.field ['c'], .index 0] := by
          decide +kernel
        rw [htarget] at hc
        exact .inr (Option.some.inj hc)
  have hroot : ∀ name steps, e.Follows (.field name :: steps) →
      members.lookup name = members'.lookup name := by
    intro name steps h
    rcases hfollows _ h with heq | heq
    · cases heq
      rfl
    · cases heq
      rfl
  have hfields : ∀ p, e.Follows p → ∀ name, .field name ∈ p →
      (name ∈ e.jsonFields ↔ name ∈ jsonFields) := by
    intro p h name hname
    rcases hfollows p h with rfl | rfl
    · have hcases : name = ['a'] ∨ name = ['b'] := by simpa using hname
      rcases hcases with rfl | rfl <;> decide
    · have hc : name = ['c'] := by simpa using hname
      subst hc
      decide
  exact ⟨hroot, hfields, (render_footprint e).1 _ _ _ hroot hfields,
    by decide +kernel⟩

end Engine

end Stencil
