/-
Registrations, and what they return, told by what has been done so far.

A registry holds scripts, and the turns of the scripts are counted apart
from it. Here neither is looked at. A registration is what a caller has
said when making a script, and is known by the number of registrations
before it; a `Book` says which registration each name stands for; and of
the calls it is only written down which registrations were called. From
these alone it follows what a call returns: the value in the place that
the earlier calls of that registration leave it (`Registration.value`).

`Registry.Follows` and `Turns.Follow` say that a registry is that of a
book, and that a count of turns is that of the calls. One lemma each for
taking over a script (`Registry.Follows.adopt`, of which making one is a
case), for calling one
(`Turns.Follow.call`) and for the names of a registry
(`Registry.Follows.contains_iff`, `size_eq`) is all that is ever needed
of the two.
-/
import Mathlib.Data.List.Dedup
import Stencil.Script

namespace Stencil

-- ================================================ statement vocabulary

/-- What a caller says who makes a script: its name, and what it returns
in turn. -/
structure Registration where
  name : Text
  values : List Returned

/-- What a registration returns when it has been called `n` times: the
values come in turn, and after the last one the first comes again. -/
def Registration.value (r : Registration) (n : Nat) : Json :=
  match r.values[n % r.values.length]? with
  | some returned => returned.toJson
  | none => .null

/-- Which registration each name stands for, by its number; of several
for one name, the first counts. -/
abbrev Book := List (Text × Nat)

/-- A registry is that of a book: it has nothing but the names of the
book, and under each of them the script of its registration. -/
structure Registry.Follows (r : Registry) (made : List Registration)
    (book : Book) : Prop where
  unbound : ∀ name, book.lookup name = none → r.find? name = none
  bound : ∀ name number, book.lookup name = some number →
    ∃ registration, made[number]? = some registration
      ∧ registration.name = name
      ∧ r.find? name
          = some ⟨number, registration.values.map Returned.toJson⟩

/-- The turns are those of all registrations, as often as each was
called. -/
structure Turns.Follow (turns : Turns) (made : List Registration)
    (called : List Nat) : Prop where
  length_eq : turns.length = made.length
  count_eq : ∀ number, turns.count number = called.count number

-- ======================================================== what is returned

/-- A script returns what its registration does. -/
theorem Script.value_eq (number : Nat) (r : Registration) (n : Nat) :
    Script.value ⟨number, r.values.map Returned.toJson⟩ n = r.value n := by
  unfold Script.value Registration.value
  rw [List.length_map, List.getElem?_map]
  cases r.values[n % r.values.length]? with
  | none => rfl
  | some returned => rfl

namespace Turns.Follow

variable {turns : Turns} {made : List Registration} {called : List Nat}

theorem nil : Follow [] [] [] := ⟨rfl, fun _ => rfl⟩

/-- What has not been registered has not been called. -/
theorem count_of_le (h : turns.Follow made called) {number : Nat}
    (hnumber : made.length ≤ number) : called.count number = 0 := by
  rw [← h.count_eq]
  exact count_of_length_le (h.length_eq ▸ hnumber)

/-- One more registration, with the calls that it has had elsewhere. -/
theorem extendBy (h : turns.Follow made called) (r : Registration)
    (before : Nat) :
    (turns.extendBy before).Follow (made ++ [r])
      (called ++ List.replicate before made.length) := by
  constructor
  · rw [length_extendBy, h.length_eq, List.length_append,
      List.length_singleton]
  · intro number
    rw [count_extendBy, h.length_eq, h.count_eq, List.count_append,
      List.count_replicate]
    by_cases heq : number = made.length
    · subst heq
      rw [if_pos rfl, h.count_of_le (Nat.le_refl _), beq_self_eq_true,
        if_pos rfl, Nat.zero_add]
    · have hne : (made.length == number) = false :=
        beq_eq_false_iff_ne.2 (Ne.symm heq)
      rw [if_neg heq, hne, if_neg Bool.false_ne_true, Nat.add_zero]

/-- A new registration has not been called. -/
theorem extend (h : turns.Follow made called) (r : Registration) :
    turns.extend.Follow (made ++ [r]) called := by
  have hextend := h.extendBy r 0
  rw [List.replicate_zero, List.append_nil] at hextend
  exact hextend

/-- A call is one more for its registration, and returns what it has to
by the calls before. -/
theorem call (h : turns.Follow made called) {number : Nat}
    {r : Registration} (hr : made[number]? = some r) :
    let script : Script := ⟨number, r.values.map Returned.toJson⟩
    (script.call turns).1 = r.value (called.count number)
      ∧ (script.call turns).2.Follow made (called ++ [number]) := by
  intro script
  have hlt : number < turns.length := by
    rw [h.length_eq]
    exact (List.getElem?_eq_some_iff.1 hr).1
  refine ⟨?_, ?_, fun other => ?_⟩
  · show script.value (turns.count number) = _
    rw [h.count_eq]
    exact Script.value_eq number r _
  · show (turns.advance number).length = _
    rw [length_advance, h.length_eq]
  · show (turns.advance number).count other = _
    rw [count_advance other hlt, h.count_eq, List.count_append]
    by_cases heq : other = number
    · subst heq
      rw [if_pos rfl, List.count_singleton_self]
    · have hnone : [number].count other = 0 :=
        List.count_eq_zero.2 (by simpa using heq)
      rw [if_neg heq, hnone, Nat.add_zero]

end Turns.Follow

-- ========================================================== the registry

namespace Registry

namespace Follows

variable {r : Registry} {made : List Registration} {book : Book}

theorem empty (made : List Registration) : Follows .empty made [] := by
  constructor
  · intro name _
    rfl
  · intro name number h
    cases h

/-- Registrations made elsewhere change nothing. -/
theorem append (h : r.Follows made book) (more : List Registration) :
    r.Follows (made ++ more) book := by
  refine ⟨h.unbound, fun name number hnumber => ?_⟩
  obtain ⟨registration, hmade, hname, hfind⟩ := h.bound name number hnumber
  refine ⟨registration, ?_, hname, hfind⟩
  rw [List.getElem?_append_left (List.getElem?_eq_some_iff.1 hmade).1]
  exact hmade

/-- A new registration takes the name over. -/
theorem adopt {turns : Turns} {called : List Nat}
    (h : r.Follows made book) (hturns : turns.Follow made called)
    (script : Prepared) (hname : Text.isIdentifier script.name = true) :
    ∃ r', r.adopt turns script = .ok (r', turns.extendBy script.called)
      ∧ r'.Follows (made ++ [⟨script.name, script.values⟩])
          ((script.name, made.length) :: book) := by
  obtain ⟨r', hadopt, hfind⟩ := r.exists_adopt turns script hname
  have hold := h.append [⟨script.name, script.values⟩]
  refine ⟨r', hadopt, fun other hother => ?_,
    fun other number hother => ?_⟩
  · rw [List.lookup_cons] at hother
    cases heq : other == script.name with
    | true =>
      rw [heq] at hother
      cases hother
    | false =>
      rw [heq] at hother
      rw [hfind, if_neg (by simpa using heq)]
      exact hold.unbound other hother
  · rw [List.lookup_cons] at hother
    cases heq : other == script.name with
    | true =>
      rw [heq] at hother
      injection hother with hnumber
      subst hnumber
      obtain rfl : other = script.name := by simpa using heq
      refine ⟨⟨script.name, script.values⟩,
        List.getElem?_concat_length .., rfl, ?_⟩
      rw [hfind, if_pos rfl, Turns.fresh, hturns.length_eq]
    | false =>
      rw [heq] at hother
      rw [hfind, if_neg (by simpa using heq)]
      exact hold.bound other number hother

theorem register {turns : Turns} {called : List Nat}
    (h : r.Follows made book) (hturns : turns.Follow made called)
    {name : Text} (hname : Text.isIdentifier name = true)
    (values : List Returned) :
    ∃ r', r.register turns name values = .ok (r', turns.extend)
      ∧ r'.Follows (made ++ [⟨name, values⟩])
          ((name, made.length) :: book) :=
  h.adopt hturns ⟨name, values, 0⟩ hname

theorem find?_isSome_iff (h : r.Follows made book) (name : Text) :
    (r.find? name).isSome = true ↔ name ∈ book.map Prod.fst := by
  cases hlookup : book.lookup name with
  | none =>
    rw [h.unbound name hlookup]
    rw [List.lookup_eq_none_iff] at hlookup
    constructor
    · intro hsome
      cases hsome
    · intro hmem
      obtain ⟨entry, hentry, rfl⟩ := List.mem_map.1 hmem
      have hne := hlookup entry hentry
      simp at hne
  | some number =>
    obtain ⟨registration, -, -, hfind⟩ := h.bound name number hlookup
    rw [hfind]
    obtain ⟨before, after, hbook, -⟩ := List.lookup_eq_some_iff.1 hlookup
    constructor
    · intro _
      rw [hbook]
      simp
    · intro _
      rfl

/-- A registry has the names of its book. -/
theorem contains_iff (h : r.Follows made book) (name : Text) :
    r.contains name = true ↔ name ∈ book.map Prod.fst :=
  h.find?_isSome_iff name

/-- Its size is the number of different names in the book. -/
theorem size_eq (h : r.Follows made book) :
    r.size = (book.map Prod.fst).dedup.length := by
  refine Table.size_eq (List.nodup_dedup _) fun name => ?_
  rw [List.mem_dedup]
  exact (h.find?_isSome_iff name).symm

/-- It is empty when the book is. -/
theorem isEmpty_iff (h : r.Follows made book) :
    r.isEmpty = true ↔ book = [] := by
  rw [isEmpty, h.size_eq, beq_iff_eq, List.length_eq_zero_iff,
    List.dedup_eq_nil, List.map_eq_nil_iff]

end Follows

end Registry

end Stencil
