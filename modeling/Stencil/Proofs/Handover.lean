/-
A registry handed over to an engine.

Registries are made, copied and called on a shelf, without an engine. When
an engine is given one of them (`Action.setRegistry`), the scripts come
out of it one by one, each with the calls that it has had
(`Registry.prepared`), and the engine counts them under numbers of its
own. Here it is shown that this cannot be told from having the registry
itself: the session goes on as one whose engine has it, with the turns of
the shelf, as long as nobody else calls its scripts any more.

# The argument

A template can refer to every name in a registry of a shelf, and each
script in it is counted on its own (`Registry.Sound`). A request keeps
this for all registries of the shelf, since a script that is made goes
behind those counted already, and a call makes the row of counts no
shorter (`Shelf.Sound.act?`); so does a run. What comes out of a sound
registry enters the tables as what is due of it
(`foldl_bindScript_prepared`), and so the two sessions match.

Main statement: `indistinct_setRegistry`.
-/
import Stencil.Proofs.History

namespace Stencil

open Text

-- ================================================ statement vocabulary

/-- A template can refer to every name in the registry, and each script is
counted on its own. -/
structure Registry.Sound (r : Registry) (turns : Turns) : Prop where
  counted : r.Counted turns
  identifiers : ∀ name script, r.find? name = some script →
    isIdentifier name = true

/-- All registries of a shelf are sound. -/
def Shelf.Sound (shelf : Shelf) : Prop :=
  ∀ r ∈ shelf.registries, r.Sound shelf.turns

-- ============================================================ on a shelf

namespace Registry.Sound

variable {r : Registry} {turns turns' : Turns}

theorem empty (turns : Turns) : Sound .empty turns :=
  ⟨counted_empty turns, fun _ _ h => nomatch h⟩

theorem mono (h : r.Sound turns) (hle : turns.length ≤ turns'.length) :
    r.Sound turns' :=
  ⟨h.counted.mono hle, h.identifiers⟩

/-- A script that is made leaves a registry sound. -/
theorem exists_register (h : r.Sound turns) {name : Text}
    (hname : isIdentifier name = true) (values : List Returned) :
    ∃ r', r.register turns name values = .ok (r', turns.extend)
      ∧ r'.Sound turns.extend := by
  obtain ⟨r', hregister, hfind⟩ := r.exists_register turns hname values
  refine ⟨r', hregister, .of_find? h.counted hfind 0,
    fun other script hother => ?_⟩
  rw [hfind] at hother
  by_cases heq : other = name
  · rw [heq]
    exact hname
  · rw [if_neg heq] at hother
    exact h.identifiers other script hother

end Registry.Sound

namespace Shelf.Sound

variable {shelf shelf' : Shelf}

theorem start : Shelf.start.Sound := by
  intro r hr
  obtain rfl := List.mem_singleton.1 hr
  exact .empty []

/-- A request leaves all registries sound. -/
theorem act? (h : shelf.Sound) {place : Nat} {request : Request}
    {reply : Reply}
    (hact : shelf.act? place request = some (reply, shelf')) :
    shelf'.Sound := by
  cases hr : shelf.registries[place]? with
  | none =>
    rw [Shelf.act?, hr] at hact
    cases hact
  | some r =>
    have hmem : r ∈ shelf.registries := List.mem_of_getElem? hr
    simp only [Shelf.act?, hr, Option.bind_eq_bind, Option.bind_some] at hact
    cases request with
    | clone =>
      cases hact
      intro other hother
      rcases List.mem_append.1 hother with hold | hcopy
      · exact h other hold
      · obtain rfl := List.mem_singleton.1 hcopy
        exact h other hmem
    | register name values =>
      by_cases hname : isIdentifier name = true
      · obtain ⟨r', hregister, hr'⟩ :=
          (h r hmem).exists_register hname values
        simp only [hregister] at hact
        cases hact
        intro other hother
        rcases List.mem_or_eq_of_mem_set hother with hold | rfl
        · refine (h other hold).mono ?_
          rw [Turns.extend, Turns.length_extendBy]
          exact Nat.le_succ _
        · exact hr'
      · simp only [r.register_refused shelf.turns hname values] at hact
        cases hact
        exact h
    | call name =>
      cases hfind : r.find? name with
      | none =>
        simp only [hfind] at hact
        cases hact
        exact h
      | some script =>
        simp only [hfind] at hact
        cases hact
        intro other hother
        refine (h other hother).mono (Nat.le_of_eq ?_)
        exact (Turns.length_advance ..).symm
    | contains name =>
      cases hact
      exact h

/-- So does a run of requests. -/
theorem run? (h : shelf.Sound) {requests : List (Nat × Request)}
    {answers : List (Reply × Shelf)}
    (hrun : shelf.run? requests = some answers) :
    ∀ answer ∈ answers, answer.2.Sound := by
  induction requests generalizing shelf answers with
  | nil =>
    cases hrun
    exact fun _ hmem => nomatch hmem
  | cons first more ih =>
    obtain ⟨⟨reply, after⟩, hact, hmore⟩ := Option.bind_eq_some_iff.1 hrun
    obtain ⟨later, hlater, hanswers⟩ := Option.bind_eq_some_iff.1 hmore
    cases hanswers
    have hafter := h.act? hact
    exact List.forall_mem_cons.2 ⟨hafter, ih hafter hlater⟩

end Shelf.Sound

-- =========================================================== the tables

namespace Tables

/-- Of several scripts of one name that are taken over the last counts. -/
theorem foldl_bindScript_entries {entries : List (Text × Script)}
    (h : ∀ entry ∈ entries, isIdentifier entry.1 = true) (turns : Turns)
    (t : Tables) :
    entries.foldl (fun t entry =>
        t.bindScript (entry.2.prepared turns entry.1)) t
      = { t with
          script? := fun name =>
            ((entries.reverse.lookup name).map fun script =>
              (script.values, turns.count script.id)).or
                (t.script? name) } := by
  induction entries generalizing t with
  | nil => rfl
  | cons entry rest ih =>
    obtain ⟨hname, hrest⟩ := List.forall_mem_cons.1 h
    have hvalues : (entry.2.values.map Returned.json).map Returned.toJson
        = entry.2.values := by
      rw [List.map_map]
      exact List.map_id _
    rw [List.foldl_cons, ih hrest, bindScript, Script.prepared, if_pos hname]
    refine Tables.ext rfl rfl rfl rfl (funext fun name => ?_)
    simp only [hvalues, lookup_reverse_cons, Option.map_or, Option.or_assoc,
      Function.update_apply]
    by_cases heq : name = entry.1
    · rw [if_pos heq, if_pos heq]
      rfl
    · rw [if_neg heq, if_neg heq]
      rfl

/-- What a registry gives out comes to what is due of it. -/
theorem foldl_bindScript_prepared {r : Registry} {turns : Turns}
    (hr : r.Sound turns) {t : Tables} (h : ∀ name, t.script? name = none) :
    (r.prepared turns).foldl bindScript t
      = { t with script? := r.due? turns } := by
  have hnames := r.scripts.nodup_names
  have hentries : ∀ entry ∈ r.scripts.entries,
      isIdentifier entry.1 = true := fun entry hentry =>
    hr.identifiers entry.1 entry.2
      ((lookup_eq_some_iff_mem hnames).2 hentry)
  rw [Registry.prepared, List.foldl_map, foldl_bindScript_entries hentries]
  refine Tables.ext rfl rfl rfl rfl (funext fun name => ?_)
  simp only [h, Option.or_none,
    lookup_eq_of_perm (List.reverse_perm r.scripts.entries) hnames]
  rfl

end Tables

-- ======================================================== handing it over

namespace Session

/-- A session that is given what comes out of a sound registry matches one
that has the registry. -/
theorem matches_setRegistry (s : Session) {r : Registry} {turns : Turns}
    (hr : r.Sound turns) :
    Matches ⟨{ s.engine with scripts := r }, turns⟩
      (s.act (.setRegistry (r.prepared turns))).2 := by
  obtain ⟨htables, hcounted⟩ := s.tables_setRegistry (r.prepared turns)
  rw [Tables.enter, Tables.foldl_bindScript_prepared hr fun _ => rfl]
    at htables
  exact ⟨htables.symm, hr.counted, hcounted⟩

/-- A registry of a shelf can be handed over to an engine whatever was done
on the shelf before. The session goes on as one whose engine has this
registry, with the turns that the shelf has counted. -/
theorem indistinct_setRegistry (s : Session)
    {requests : List (Nat × Shelf.Request)}
    {answers : List (Shelf.Reply × Shelf)}
    (hrun : Shelf.start.run? requests = some answers) {shelf : Shelf}
    (hshelf : shelf ∈ answers.map Prod.snd) {r : Registry}
    (hr : r ∈ shelf.registries) :
    Indistinct ⟨{ s.engine with scripts := r }, shelf.turns⟩
      (s.act (.setRegistry (r.prepared shelf.turns))).2 := by
  obtain ⟨answer, hanswer, rfl⟩ := List.mem_map.1 hshelf
  have hsound := Shelf.Sound.start.run? hrun answer hanswer r hr
  exact (s.matches_setRegistry hsound).indistinct

/-- A script that was called once comes with its second value; made anew,
it starts with the first. -/
example :
    let values : List Returned := [.json (.int 1), .json (.int 2)]
    let s := start (.withJsonFields "$\x7bscript:n\x7d" [])
    let shown := fun action : Action =>
      match ((s.act action).2.act (.renderLossy .null)).1.answer with
      | .rendered text => text
      | _ => []
    shown (.setRegistry [⟨['n'], values, 1⟩]) = ['2']
      ∧ shown (.setScripts [(['n'], values)]) = ['1'] := by
  decide +kernel

end Session

end Stencil
