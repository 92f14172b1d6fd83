/-
Tables: finite maps from names to values, kept in the order of the names.

The order is that of the characters' code points, which is also the order
of the UTF-8 bytes. A later binding of a name takes the place of an
earlier one. `insertEntry` works on any list of entries; a `Table` is one
that ascends, and `find?_insert` says what a binding changes.
-/
import Stencil.Text.Basic

namespace Stencil

variable {α : Type}

/-- Binds a name in a list of entries that ascends. -/
def insertEntry (name : Text) (value : α) :
    List (Text × α) → List (Text × α)
  | [] => [(name, value)]
  | (n, v) :: rest =>
    if name < n then (name, value) :: (n, v) :: rest
    else if name = n then (name, value) :: rest
    else (n, v) :: insertEntry name value rest

/-- The entries ascend strictly by name. -/
def Ascending (entries : List (Text × α)) : Prop :=
  entries.Pairwise (·.1 < ·.1)

theorem mem_insertEntry {name : Text} {value : α} {e : Text × α}
    {entries : List (Text × α)} (h : e ∈ insertEntry name value entries) :
    e = (name, value) ∨ e ∈ entries := by
  induction entries with
  | nil => simpa [insertEntry] using h
  | cons entry rest ih =>
    obtain ⟨n, v⟩ := entry
    simp only [insertEntry] at h
    split at h
    · simpa using h
    · split at h
      · rcases List.mem_cons.1 h with h | h
        · exact .inl h
        · exact .inr (List.mem_cons_of_mem _ h)
      · rcases List.mem_cons.1 h with h | h
        · exact .inr (by simp [h])
        · exact (ih h).imp_right (List.mem_cons_of_mem _)

theorem ascending_insertEntry (name : Text) (value : α)
    {entries : List (Text × α)} (h : Ascending entries) :
    Ascending (insertEntry name value entries) := by
  induction entries with
  | nil => simp [insertEntry, Ascending]
  | cons entry rest ih =>
    obtain ⟨n, v⟩ := entry
    obtain ⟨hn, hrest⟩ := List.pairwise_cons.1 h
    simp only [insertEntry]
    split
    · rename_i hlt
      refine List.pairwise_cons.2 ⟨fun e he => ?_, h⟩
      rcases List.mem_cons.1 he with rfl | he
      · exact hlt
      · exact List.lt_trans hlt (hn e he)
    · split
      · rename_i heq
        exact List.pairwise_cons.2 ⟨fun e he => heq ▸ hn e he, hrest⟩
      · rename_i hge hne
        refine List.pairwise_cons.2 ⟨fun e he => ?_, ih hrest⟩
        rcases mem_insertEntry he with rfl | he
        · exact Decidable.byContradiction fun hnot =>
            hne (List.le_antisymm hnot hge)
        · exact hn e he

/-- A name behind all others is bound at the end. -/
theorem insertEntry_last {name : Text} (value : α)
    {entries : List (Text × α)} (h : ∀ e ∈ entries, e.1 < name) :
    insertEntry name value entries = entries ++ [(name, value)] := by
  induction entries with
  | nil => rfl
  | cons entry rest ih =>
    have hfirst := h entry (List.mem_cons_self ..)
    have hne : name ≠ entry.1 := by
      intro heq
      rw [heq] at hfirst
      exact List.lt_irrefl _ hfirst
    rw [insertEntry, if_neg (List.lt_asymm hfirst), if_neg hne,
      ih fun e he => h e (List.mem_cons_of_mem _ he)]
    rfl

/-- Names in their order are bound one behind the other. -/
theorem foldl_insertEntry {before entries : List (Text × α)}
    (h : Ascending (before ++ entries)) :
    entries.foldl (fun bound e => insertEntry e.1 e.2 bound) before
      = before ++ entries := by
  induction entries generalizing before with
  | nil => exact (List.append_nil before).symm
  | cons entry rest ih =>
    have hlast : ∀ e ∈ before, e.1 < entry.1 := fun e he =>
      (List.pairwise_append.1 h).2.2 e he _ (List.mem_cons_self ..)
    rw [List.append_cons] at h ⊢
    rw [List.foldl_cons, insertEntry_last entry.2 hlast]
    exact ih h

theorem lookup_insertEntry (name other : Text) (value : α)
    {entries : List (Text × α)} (h : Ascending entries) :
    (insertEntry name value entries).lookup other
      = if other = name then some value else entries.lookup other := by
  induction entries with
  | nil => simp [insertEntry, List.lookup_cons]; split <;> simp_all
  | cons entry rest ih =>
    obtain ⟨n, v⟩ := entry
    obtain ⟨hn, hrest⟩ := List.pairwise_cons.1 h
    simp only [insertEntry]
    split
    · simp [List.lookup_cons]; split <;> simp_all
    · split
      · simp_all [List.lookup_cons]; split <;> simp_all
      · simp only [List.lookup_cons, ih hrest]
        split <;> split <;> simp_all

/-- Where each name is bound once, it is found bound to what it is bound
to. -/
theorem lookup_eq_some_iff_mem {entries : List (Text × α)}
    (hnames : (entries.map Prod.fst).Nodup) {name : Text} {value : α} :
    entries.lookup name = some value ↔ (name, value) ∈ entries := by
  induction entries with
  | nil => simp
  | cons entry rest ih =>
    obtain ⟨n, v⟩ := entry
    obtain ⟨hn, hrest⟩ := List.nodup_cons.1 hnames
    rw [List.lookup_cons, List.mem_cons, ← ih hrest]
    by_cases heq : name = n
    · subst heq
      have hnone : rest.lookup name ≠ some value := fun h =>
        hn (List.mem_map.2 ⟨_, (ih hrest).1 h, rfl⟩)
      simp only [beq_self_eq_true, Prod.mk.injEq, true_and, hnone, or_false,
        Option.some.injEq]
      exact eq_comm
    · have hbeq : (name == n) = false := by simpa using heq
      simp only [hbeq, Prod.mk.injEq, heq, false_and, false_or]

/-- So the order of the entries does not matter. -/
theorem lookup_eq_of_perm {entries entries' : List (Text × α)}
    (h : entries.Perm entries') (hnames : (entries'.map Prod.fst).Nodup)
    (name : Text) : entries.lookup name = entries'.lookup name := by
  have hnames' := (h.map Prod.fst).nodup_iff.2 hnames
  refine Option.ext fun value => ?_
  rw [lookup_eq_some_iff_mem hnames', lookup_eq_some_iff_mem hnames,
    h.mem_iff]

/-- Only the entries for a name matter when it is looked up. -/
theorem lookup_eq_head?_filter (entries : List (Text × α)) (name : Text) :
    entries.lookup name
      = (entries.filter fun entry => entry.1 == name).head?.map Prod.snd := by
  induction entries with
  | nil => rfl
  | cons entry rest ih =>
    rw [List.lookup_cons]
    by_cases heq : name = entry.1
    · have hsame : (entry.1 == name) = true := beq_iff_eq.2 heq.symm
      rw [beq_iff_eq.2 heq, List.filter_cons, if_pos hsame]
      rfl
    · have hother : ¬ (entry.1 == name) = true := fun h =>
        heq (beq_iff_eq.1 h).symm
      rw [beq_eq_false_iff_ne.2 heq, List.filter_cons, if_neg hother]
      exact ih

/-- Of two entries for a name the later one counts, looked up from the
end. -/
theorem lookup_reverse_cons (entry : Text × α) (rest : List (Text × α))
    (name : Text) :
    (entry :: rest).reverse.lookup name
      = (rest.reverse.lookup name).or
          (if name = entry.1 then some entry.2 else none) := by
  rw [List.reverse_cons, List.lookup_append, List.lookup_cons,
    List.lookup_nil]
  by_cases heq : name = entry.1
  · rw [if_pos heq, beq_iff_eq.2 heq]
  · rw [if_neg heq, beq_eq_false_iff_ne.2 heq]

/-- A finite map from names to values. -/
structure Table (α : Type) where
  /-- The names with what they are bound to, in the order of the names. -/
  entries : List (Text × α)
  ascending : Ascending entries

namespace Table

instance [DecidableEq α] : DecidableEq (Table α) := fun s t =>
  decidable_of_iff (s.entries = t.entries)
    ⟨fun h => by cases s; cases t; simp_all, fun h => h ▸ rfl⟩

instance : EmptyCollection (Table α) := ⟨⟨[], .nil⟩⟩

instance : Inhabited (Table α) := ⟨∅⟩

/-- What a name is bound to. -/
def find? (t : Table α) (name : Text) : Option α := t.entries.lookup name

/-- Binds a name, in place of what it was bound to before. -/
def insert (t : Table α) (name : Text) (value : α) : Table α :=
  ⟨insertEntry name value t.entries,
    ascending_insertEntry name value t.ascending⟩

/-- Binds names one after the other. -/
def insertAll (t : Table α) (entries : List (Text × α)) : Table α :=
  entries.foldl (fun t e => t.insert e.1 e.2) t

/-- Whether a name is bound. -/
def contains (t : Table α) (name : Text) : Bool := (t.find? name).isSome

/-- How many names are bound. -/
def size (t : Table α) : Nat := t.entries.length

theorem find?_insert (t : Table α) (name other : Text) (value : α) :
    (t.insert name value).find? other
      = if other = name then some value else t.find? other :=
  lookup_insertEntry name other value t.ascending

/-- Of several bindings of a name the last counts. -/
theorem find?_insertAll (t : Table α) (entries : List (Text × α))
    (name : Text) :
    (t.insertAll entries).find? name
      = (entries.reverse.lookup name).or (t.find? name) := by
  unfold insertAll
  induction entries generalizing t with
  | nil => rfl
  | cons entry rest ih =>
    rw [List.foldl_cons, ih, find?_insert, lookup_reverse_cons,
      Option.or_assoc]
    by_cases heq : name = entry.1
    · rw [if_pos heq, if_pos heq]
      rfl
    · rw [if_neg heq, if_neg heq]
      rfl

@[simp] theorem find?_empty (name : Text) :
    (∅ : Table α).find? name = none := rfl

theorem nodup_names (t : Table α) : (t.entries.map Prod.fst).Nodup := by
  rw [List.Nodup, List.pairwise_map]
  refine t.ascending.imp fun {a b} hab heq => ?_
  rw [heq] at hab
  exact List.lt_irrefl _ hab

/-- The entries of a table can be bound in any order. -/
theorem find?_insertAll_of_perm (t : Table α) {s : Table α}
    {entries : List (Text × α)} (h : entries.Perm s.entries) (name : Text) :
    (t.insertAll entries).find? name = (s.find? name).or (t.find? name) := by
  rw [find?_insertAll]
  have hreverse := (List.reverse_perm entries).trans h
  rw [lookup_eq_of_perm hreverse s.nodup_names]
  rfl

/-- A table is what it binds each name to. -/
theorem ext_find? {s t : Table α} (h : ∀ name, s.find? name = t.find? name) :
    s = t := by
  have hmem : ∀ e, e ∈ s.entries ↔ e ∈ t.entries := by
    intro e
    rw [← lookup_eq_some_iff_mem s.nodup_names,
      ← lookup_eq_some_iff_mem t.nodup_names]
    exact iff_of_eq (congrArg (· = some e.2) (h e.1))
  have hnodup : ∀ u : Table α, u.entries.Nodup := by
    intro u
    refine u.ascending.imp fun {a b} hlt heq => ?_
    rw [heq] at hlt
    exact List.lt_irrefl _ hlt
  have hperm := (List.perm_ext_iff_of_nodup (hnodup s) (hnodup t)).2 hmem
  have hentries : s.entries = t.entries :=
    hperm.eq_of_pairwise
      (fun a b _ _ hab hba => absurd hba (List.lt_asymm hab))
      s.ascending t.ascending
  cases s
  cases t
  cases hentries
  rfl

/-- A table is what its entries bind. -/
theorem insertAll_entries (t : Table α) : insertAll ∅ t.entries = t := by
  refine ext_find? fun name => ?_
  rw [find?_insertAll_of_perm ∅ (List.Perm.refl t.entries), find?_empty,
    Option.or_none]

theorem isSome_find?_iff (t : Table α) (name : Text) :
    (t.find? name).isSome = true ↔ name ∈ t.entries.map Prod.fst := by
  unfold find?
  induction t.entries with
  | nil => simp
  | cons entry rest ih =>
    obtain ⟨n, v⟩ := entry
    rw [List.lookup_cons, List.map_cons, List.mem_cons, ← ih]
    by_cases h : name = n
    · simp only [h, beq_self_eq_true, Option.isSome_some, true_or]
    · have hbeq : (name == n) = false := by simpa using h
      simp only [hbeq, h, false_or]

/-- The first entry whose name is of some kind has the least such name. -/
theorem least_of_find?_entries {t : Table α} (kind : Text → Bool)
    {entry : Text × α}
    (h : t.entries.find? (fun entry => kind entry.1) = some entry) :
    (t.find? entry.1).isSome = true ∧ kind entry.1 = true
      ∧ ∀ other, (t.find? other).isSome = true → kind other = true →
          ¬ other < entry.1 := by
  obtain ⟨hkind, before, later, hentries, hbefore⟩ :=
    List.find?_eq_some_iff_append.1 h
  refine ⟨?_, hkind, fun other hother hkind' => ?_⟩
  · rw [isSome_find?_iff]
    exact List.mem_map_of_mem (List.mem_of_find?_eq_some h)
  · rw [isSome_find?_iff, hentries] at hother
    obtain ⟨entry', hmem, rfl⟩ := List.mem_map.1 hother
    rcases List.mem_append.1 hmem with hfirst | hlater
    · have hnot := hbefore entry' hfirst
      rw [hkind'] at hnot
      cases hnot
    · rcases List.mem_cons.1 hlater with rfl | hlater
      · exact List.lt_irrefl _
      · have hascending := t.ascending
        rw [hentries] at hascending
        have hlt := (List.pairwise_cons.1
          (List.pairwise_append.1 hascending).2.1).1 entry' hlater
        exact List.lt_asymm hlt

/-- A table has as many names as any list that has each of them once. -/
theorem size_eq {t : Table α} {names : List Text} (hnames : names.Nodup)
    (h : ∀ name, name ∈ names ↔ (t.find? name).isSome = true) :
    t.size = names.length := by
  have hperm : (t.entries.map Prod.fst).Perm names := by
    refine (List.perm_ext_iff_of_nodup t.nodup_names hnames).2 fun name => ?_
    rw [h, isSome_find?_iff]
  rw [size, ← List.length_map Prod.fst]
  exact hperm.length_eq

end Table

end Stencil
