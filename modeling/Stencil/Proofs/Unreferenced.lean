/-
What a template does not refer to makes no difference.

Tables of aliases and scripts can hold much that a template never asks
for. A rendering looks up a name only for an alternative that stands in
one of the placeholders (`Engine.Refers`). What an alias stands for is
read as a path and as nothing else; an alias or a script that its text
mentions is therefore not referred to, and nothing is looked up for it.

# The argument

Two sessions that are akin in what the template refers to show the same
in a rendering and are akin after it (`Akin.act`), since a script that is
called moves its own turns alone. So they show the same over any row of
renderings (`Akin.shows_eq`). A registration of a name that is not
referred to leaves a session akin to what it was (`akin_of_stray`), and so
do many (`akin_after_strays`).

Main statement: `shows_eq_of_agreeOn`.
-/
import Stencil.Proofs.History

namespace Stencil

open Text

-- ================================================ statement vocabulary

/-- A registration of a name that is none of these alternatives refers
to. -/
inductive Action.Stray (refs : Alternative → Prop) : Action → Prop where
  | ofAlias {name : Text} (path : Text) :
      ¬ refs (.aliasRef name) → Stray refs (.registerAlias name path)
  | ofScript {name : Text} (values : List Returned) :
      ¬ refs (.scriptRef name) → Stray refs (.registerScript name values)

namespace Session

/-- What can be seen of a session while actions are done: how it responds
to each, and the failures that are recorded then. -/
def shows (s : Session) (actions : List Action) :
    List (Response × List Failure) :=
  (s.run actions).map fun (response, after) =>
    (response, after.engine.failures)

-- ========================================================== renderings

variable {refs : Alternative → Prop} {s f : Session}

/-- Akin sessions show the same in a rendering. -/
theorem Akin.act (h : s.Akin refs f)
    (hrefs : ∀ a, s.engine.Refers a → refs a) {action : Action}
    (hrendering : action.rendering? ≠ none) :
    (s.act action).1 = (f.act action).1
      ∧ (s.act action).2.engine.failures = (f.act action).2.engine.failures
      ∧ (s.act action).2.Akin refs (f.act action).2
      ∧ ∀ a, (s.act action).2.engine.Refers a → refs a := by
  obtain ⟨⟨data, validate⟩, hsome⟩ := Option.ne_none_iff_exists'.1 hrendering
  obtain ⟨halike, hakin⟩ := h.pass hrefs data
  rw [s.act_of_rendering hsome, f.act_of_rendering hsome]
  refine ⟨?_, halike.failures_eq, hakin, hrefs⟩
  simp only [told, halike.text_eq, halike.failures_eq, halike.calls_eq,
    halike.log_eq]

/-- Akin sessions show the same in a row of renderings. -/
theorem Akin.shows_eq (h : s.Akin refs f)
    (hrefs : ∀ a, s.engine.Refers a → refs a) {renderings : List Action}
    (hrenderings : ∀ action ∈ renderings, action.rendering? ≠ none) :
    s.shows renderings = f.shows renderings := by
  induction renderings generalizing s f with
  | nil => rfl
  | cons action more ih =>
    obtain ⟨hfirst, hmore⟩ := List.forall_mem_cons.1 hrenderings
    obtain ⟨hresponse, hfailures, hakin, hrefs'⟩ := h.act hrefs hfirst
    show ((s.act action).1, (s.act action).2.engine.failures)
        :: (s.act action).2.shows more
      = ((f.act action).1, (f.act action).2.engine.failures)
        :: (f.act action).2.shows more
    rw [hresponse, hfailures, ih hakin hrefs' hmore]

-- ======================================================= registrations

/-- A registration of something else is not seen in the tables. -/
theorem agreeOn_of_stray {action : Action} (h : action.Stray refs)
    (t : Tables) : t.AgreeOn refs (t.enter action) := by
  cases h with
  | @ofAlias name path hname =>
    by_cases hvalid : isIdentifier name = true
    · rw [Tables.enter, Tables.bindAlias, if_pos hvalid]
      refine { Tables.AgreeOn.refl refs t with alias_eq := ?_ }
      intro other hother
      have hne : other ≠ name := fun heq => hname (heq ▸ hother)
      exact (Function.update_of_ne hne ..).symm
    · rw [Tables.enter, Tables.bindAlias, if_neg hvalid]
      exact .refl refs t
  | @ofScript name values hname =>
    by_cases hvalid : isIdentifier name = true
    · rw [Tables.enter, Tables.bindScript, if_pos hvalid]
      refine { Tables.AgreeOn.refl refs t with script_eq := ?_ }
      intro other hother
      have hne : other ≠ name := fun heq => hname (heq ▸ hother)
      exact (Function.update_of_ne hne ..).symm
    · rw [Tables.enter, Tables.bindScript, if_neg hvalid]
      exact .refl refs t

theorem akin_of_stray (hs : s.engine.scripts.Counted s.turns)
    {action : Action} (h : action.Stray refs) :
    s.Akin refs (s.act action).2 := by
  have hquiet : action.rendering? = none := by
    cases h <;> rfl
  have hacts := s.acts_act action
  refine ⟨?_, hs, hacts.counted hs⟩
  rw [hacts.tables_eq hs hquiet]
  exact agreeOn_of_stray h s.tables

/-- Registrations of other things leave a session akin to what it was. -/
theorem akin_after_strays (hs : s.engine.scripts.Counted s.turns)
    {registrations : List Action}
    (h : ∀ action ∈ registrations, action.Stray refs) :
    s.Akin refs (s.after registrations) := by
  induction registrations generalizing s with
  | nil => exact ⟨.refl refs s.tables, hs, hs⟩
  | cons action more ih =>
    obtain ⟨hfirst, hmore⟩ := List.forall_mem_cons.1 h
    have hone := akin_of_stray hs hfirst
    have hothers := ih hone.counted' hmore
    exact ⟨hone.tables_agree.trans hothers.tables_agree, hs,
      hothers.counted'⟩

/-- Let two sessions have the same template, fields and flag, and let them
agree on the aliases and scripts that placeholders refer to, where a
script is the same if it returns the same and is at the same turn. Then
all renderings show the same in both, and so it is with a session before
and after registrations of what is not referred to. -/
theorem shows_eq_of_agreeOn (hs : s.engine.scripts.Counted s.turns)
    (renderings : List Action)
    (hrenderings : ∀ action ∈ renderings, action.rendering? ≠ none) :
    (∀ f : Session, f.engine.scripts.Counted f.turns →
        s.tables.AgreeOn s.engine.Refers f.tables →
        s.shows renderings = f.shows renderings)
      ∧ ∀ registrations : List Action,
        (∀ action ∈ registrations, action.Stray s.engine.Refers) →
        (s.after registrations).shows renderings = s.shows renderings := by
  constructor
  · intro f hf hagree
    have hakin : s.Akin s.engine.Refers f := ⟨hagree, hs, hf⟩
    exact hakin.shows_eq (fun _ ha => ha) hrenderings
  · intro registrations hstray
    have hakin := akin_after_strays hs hstray
    exact (hakin.shows_eq (fun _ ha => ha) hrenderings).symm

/-- The text of an alias mentions a script and another alias; one session
has the script, the other one the alias, and they count the script that
is referred to under different numbers. -/
theorem shows_eq_of_agreeOn_beside_mention :
    let template : Text := "$\x7balias:a ?? script:n\x7d"
    let values : List Returned := [.json (.int 1), .nan]
    let s := (start (.withJsonFields template [['f'], ['g']])).after
      [.registerAlias ['a'] "script:m ?? alias:b",
        .registerScript ['m'] [.json (.bool true)],
        .registerScript ['n'] values]
    let f := (start (.withJsonFields template [['g'], ['f'], ['g']])).after
      [.registerScript ['n'] values, .registerAlias ['b'] ['x'],
        .registerAlias ['a'] "script:m ?? alias:b"]
    let renderings : List Action :=
      [.renderLossy (.object []), .render (.object [(['x'], .int 7)]) true]
    s.engine.scripts.Counted s.turns ∧ f.engine.scripts.Counted f.turns
      ∧ s.tables.AgreeOn s.engine.Refers f.tables
      ∧ (∀ action ∈ renderings, action.rendering? ≠ none)
      ∧ s.shows renderings = f.shows renderings
      ∧ (f.shows renderings).map (fun shown => shown.2.length) = [0, 1] := by
  intro template values s f renderings
  have hs : s.engine.scripts.Counted s.turns :=
    counted_after (Registry.counted_empty []) _
  have hf : f.engine.scripts.Counted f.turns :=
    counted_after (Registry.counted_empty []) _
  have hplaceholders : s.engine.placeholders
      = ["alias:a ?? script:n".toList] := by
    decide +kernel
  have hparse : Expression.parse "alias:a ?? script:n"
      = [.aliasRef ['a'], .scriptRef ['n']] := by
    decide +kernel
  have hrefers : ∀ a, s.engine.Refers a →
      a = .aliasRef ['a'] ∨ a = .scriptRef ['n'] := by
    rintro a ⟨text, htext, ha⟩
    rw [hplaceholders] at htext
    obtain rfl := List.mem_singleton.1 htext
    rw [hparse] at ha
    simpa using ha
  have hagree : s.tables.AgreeOn s.engine.Refers f.tables := by
    refine ⟨rfl, fun name => ?_, rfl, fun name hname => ?_,
      fun name hname => ?_⟩
    · show name ∈ [['f'], ['g']] ↔ name ∈ [['g'], ['f'], ['g']]
      simp only [List.mem_cons, List.not_mem_nil, or_false]
      tauto
    · obtain h | h := hrefers _ hname
      · cases h
        decide +kernel
      · cases h
    · obtain h | h := hrefers _ hname
      · cases h
      · cases h
        rfl
  have hrenderings : ∀ action ∈ renderings, action.rendering? ≠ none := by
    simp [renderings, Action.rendering?]
  exact ⟨hs, hf, hagree, hrenderings,
    (shows_eq_of_agreeOn hs renderings hrenderings).1 f hf hagree,
    by decide +kernel⟩

end Session

end Stencil
