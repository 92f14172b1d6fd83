/-
Copies of registries: each has names of its own, and all count together.

What is done on a shelf is told as annals: the registrations made, for
each registry a book with the names bound in it, and the calls. A copy
starts with the book that its original has at that moment, and a
registration is written into one book alone. Which registration a call
goes to is looked up in the book of the registry asked, but the calls
through all registries are written down together. So the annals say what
every request is answered (`Annals.Answered`), and which names each
registry has (`Annals.Fits`).

# The argument

The registries are those of the books, and the turns are those of the
calls (`Annals.Describes`). Each kind of request keeps this (`Serves`): a
registration made in one registry changes nothing in the others
(`Registry.Follows.append`), and a copy has the book of its original, so
that the same fact describes both.

Main statement: `tells_run`.
-/
import Stencil.Proofs.Registration

namespace Stencil

open Text Stencil.Shelf

-- ================================================ statement vocabulary

/-- How many registries a request adds to the row. -/
def Shelf.Request.copies : Request → Nat
  | clone => 1
  | register .. | call _ | contains _ => 0

/-- Each request is for a registry that is there when it is made; at the
start there are `count`. -/
def Shelf.Placed (count : Nat) : List (Nat × Request) → Prop
  | [] => True
  | (place, request) :: more =>
    place < count ∧ Placed (count + request.copies) more

/-- What has happened on a shelf: the registrations made, the names bound
in each registry, by its place, and the registrations called. -/
structure Annals where
  made : List Registration
  books : List Book
  called : List Nat

namespace Annals

/-- Before anything has happened there is one registry, without names. -/
def start : Annals := ⟨[], [[]], []⟩

/-- The book of the registry at a place. -/
def book (a : Annals) (place : Nat) : Book := a.books[place]?.getD []

/-- The names that were registered in the registry at a place, or were
there when it was copied, as often as that was. -/
def names (a : Annals) (place : Nat) : List Text :=
  (a.book place).map Prod.fst

/-- What has happened after a request. -/
def after (a : Annals) (place : Nat) : Request → Annals
  | .clone => { a with books := a.books ++ [a.book place] }
  | .register name values =>
    if isIdentifier name then
      { a with
        made := a.made ++ [⟨name, values⟩]
        books := a.books.set place
          ((name, a.made.length) :: a.book place) }
    else a
  | .call name =>
    match (a.book place).lookup name with
    | some number => { a with called := a.called ++ [number] }
    | none => a
  | .contains _ => a

/-- What a request is answered. A call returns the value that the calls
before it, through whichever registry, leave to the registration that the
name stands for here. -/
inductive Answered (a : Annals) (place : Nat) : Request → Reply → Prop where
  | clone : Answered a place .clone (.slot a.books.length)
  | registered {name : Text} (values : List Returned) :
      isIdentifier name = true →
      Answered a place (.register name values) (.registered (.ok ()))
  | refused {name : Text} (values : List Returned) :
      ¬ isIdentifier name = true →
      Answered a place (.register name values)
        (.registered (.error (.invalidScript name)))
  | returned {name : Text} {number : Nat} {registration : Registration} :
      (a.book place).lookup name = some number →
      a.made[number]? = some registration →
      registration.name = name →
      Answered a place (.call name)
        (.returned (some (registration.value (a.called.count number))))
  | unknown {name : Text} :
      name ∉ a.names place →
      Answered a place (.call name) (.returned none)
  | contains {name : Text} {b : Bool} :
      (b = true ↔ name ∈ a.names place) →
      Answered a place (.contains name) (.flag b)

/-- There is a registry for each book, with the names of this book and no
others. -/
structure Fits (a : Annals) (shelf : Shelf) : Prop where
  length_eq : shelf.registries.length = a.books.length
  contains_iff : ∀ place r, shelf.registries[place]? = some r →
    ∀ name, r.contains name = true ↔ name ∈ a.names place
  size_eq : ∀ place r, shelf.registries[place]? = some r →
    r.size = (a.names place).dedup.length
  isEmpty_iff : ∀ place r, shelf.registries[place]? = some r →
    (r.isEmpty = true ↔ a.names place = [])

/-- A request for the registry at a place. -/
structure Step (a : Annals) (shelf : Shelf) (place : Nat)
    (request : Request) (reply : Reply) (shelf' : Shelf) : Prop where
  answered : a.Answered place request reply
  /-- A registry changes by a registration in it, and by nothing else. -/
  kept : ∀ other r, shelf.registries[other]? = some r →
    (other = place → ∀ name values, request ≠ .register name values) →
    shelf'.registries[other]? = some r
  /-- Nor does anything when a registration is refused. -/
  unchanged : ∀ error, reply = .registered (.error error) → shelf' = shelf

/-- The requests made of a shelf, one after the other, go as the annals
say. -/
inductive Tells : Annals → Shelf → List (Nat × Request) →
    List (Reply × Shelf) → Prop where
  | nil {a : Annals} {shelf : Shelf} : a.Fits shelf → Tells a shelf [] []
  | cons {a : Annals} {shelf shelf' : Shelf} {place : Nat}
      {request : Request} {reply : Reply} {more : List (Nat × Request)}
      {later : List (Reply × Shelf)} :
      a.Fits shelf →
      a.Step shelf place request reply shelf' →
      Tells (a.after place request) shelf' more later →
      Tells a shelf ((place, request) :: more) ((reply, shelf') :: later)

-- ============================================================== the books

variable {a : Annals} {shelf : Shelf} {place other : Nat}

theorem length_books_after (a : Annals) (place : Nat) (request : Request) :
    (a.after place request).books.length
      = a.books.length + request.copies := by
  cases request with
  | clone => exact List.length_append
  | register name values =>
    rw [after]
    by_cases hname : isIdentifier name = true
    · rw [if_pos hname]
      exact List.length_set
    · rw [if_neg hname]
      rfl
  | call name =>
    rw [after]
    cases (a.book place).lookup name <;> rfl
  | contains name => rfl

theorem book_clone_of_lt (h : other < a.books.length) :
    (a.after place .clone).book other = a.book other := by
  show (a.books ++ [a.book place])[other]?.getD [] = _
  rw [List.getElem?_append_left h]
  rfl

theorem book_clone_last :
    (a.after place .clone).book a.books.length = a.book place := by
  show (a.books ++ [a.book place])[a.books.length]?.getD [] = _
  rw [List.getElem?_concat_length]
  rfl

/-- A shelf is what its annals say. -/
structure Describes (a : Annals) (shelf : Shelf) : Prop where
  length_eq : shelf.registries.length = a.books.length
  registry : ∀ place (r : Registry), shelf.registries[place]? = some r →
    r.Follows a.made (a.book place)
  turns : shelf.turns.Follow a.made a.called

namespace Describes

theorem fits (h : a.Describes shelf) : a.Fits shelf where
  length_eq := h.length_eq
  contains_iff place r hr := (h.registry place r hr).contains_iff
  size_eq place r hr := (h.registry place r hr).size_eq
  isEmpty_iff place r hr := by
    rw [(h.registry place r hr).isEmpty_iff, names, List.map_eq_nil_iff]

variable {r : Registry}

/-- A copy has the names of its original. -/
theorem clone (h : a.Describes shelf)
    (hr : shelf.registries[place]? = some r) :
    (a.after place .clone).Describes
      { shelf with registries := shelf.registries ++ [r] } := by
  refine ⟨?_, fun other r' hr' => ?_, h.turns⟩
  · rw [length_books_after, List.length_append, h.length_eq]
    rfl
  · rcases Nat.lt_or_ge other shelf.registries.length with hlt | hge
    · rw [List.getElem?_append_left hlt] at hr'
      rw [book_clone_of_lt (h.length_eq ▸ hlt)]
      exact h.registry other r' hr'
    · rw [List.getElem?_append_right hge, List.getElem?_singleton] at hr'
      split at hr'
      · cases hr'
        obtain rfl : other = a.books.length := by
          rw [← h.length_eq]
          omega
        rw [book_clone_last]
        exact h.registry place r hr
      · cases hr'

/-- A registration is one of the registry it is made in; the others stay
as they are. -/
theorem register (h : a.Describes shelf)
    (hr : shelf.registries[place]? = some r) {name : Text}
    (hname : isIdentifier name = true) (values : List Returned) :
    ∃ r', r.register shelf.turns name values
        = .ok (r', shelf.turns.extend)
      ∧ (a.after place (.register name values)).Describes
          ⟨shelf.registries.set place r', shelf.turns.extend⟩ := by
  obtain ⟨r', hregister, hfollows⟩ :=
    (h.registry place r hr).register h.turns hname values
  refine ⟨r', hregister, ?_⟩
  have hlt : place < a.books.length := by
    rw [← h.length_eq]
    exact (List.getElem?_eq_some_iff.1 hr).1
  rw [after, if_pos hname]
  refine ⟨?_, fun other s hs => ?_, h.turns.extend _⟩
  · rw [List.length_set, List.length_set, h.length_eq]
  · unfold book
    rw [List.getElem?_set] at hs
    by_cases hsame : place = other
    · subst hsame
      rw [if_pos rfl, if_pos (h.length_eq ▸ hlt)] at hs
      cases hs
      rw [List.getElem?_set_self hlt]
      exact hfollows
    · rw [if_neg hsame] at hs
      rw [List.getElem?_set_ne hsame]
      exact (h.registry other s hs).append _

/-- A call is one more of its registration. -/
theorem call (h : a.Describes shelf) {name : Text} {number : Nat}
    {registration : Registration}
    (hlookup : (a.book place).lookup name = some number)
    (hmade : a.made[number]? = some registration) :
    (a.after place (.call name)).Describes
      { shelf with turns :=
          (Script.call ⟨number, registration.values.map Returned.toJson⟩
            shelf.turns).2 } := by
  simp only [after, hlookup]
  exact ⟨h.length_eq, h.registry, (h.turns.call hmade).2⟩

end Describes

-- ========================================================== the requests

/-- A request is served as the annals say, and leaves what they say. -/
structure Serves (a : Annals) (shelf : Shelf) (place : Nat)
    (request : Request) (reply : Reply) (shelf' : Shelf) : Prop where
  act : shelf.act? place request = some (reply, shelf')
  step : a.Step shelf place request reply shelf'
  describes : (a.after place request).Describes shelf'

/-- What leaves the shelf as it is, if the annals agree. -/
theorem Serves.of_unchanged {request : Request} {reply : Reply}
    (h : a.Describes shelf)
    (hact : shelf.act? place request = some (reply, shelf))
    (hanswered : a.Answered place request reply)
    (hafter : a.after place request = a) :
    a.Serves shelf place request reply shelf := by
  refine ⟨hact, ⟨hanswered, fun _ _ hs _ => hs, fun _ _ => rfl⟩, ?_⟩
  rw [hafter]
  exact h

section Requests

variable {r : Registry} (h : a.Describes shelf)
  (hr : shelf.registries[place]? = some r)
include h hr

theorem serves_clone :
    a.Serves shelf place .clone (.slot shelf.registries.length)
      { shelf with registries := shelf.registries ++ [r] } := by
  refine ⟨?_, ⟨?_, fun other s hs _ => ?_, fun error hreply => ?_⟩,
    h.clone hr⟩
  · simp only [act?, hr]
    rfl
  · rw [h.length_eq]
    exact .clone
  · rw [List.getElem?_append_left (List.getElem?_eq_some_iff.1 hs).1]
    exact hs
  · cases hreply

theorem exists_serves_register (name : Text) (values : List Returned) :
    ∃ reply shelf',
      a.Serves shelf place (.register name values) reply shelf' := by
  by_cases hname : isIdentifier name = true
  · obtain ⟨r', hregister, hdescribes⟩ := h.register hr hname values
    refine ⟨_, _, ?_,
      ⟨.registered values hname, fun other s hs hother => ?_,
        fun error hreply => ?_⟩, hdescribes⟩
    · simp only [act?, hr, Option.bind_eq_bind, Option.bind_some, hregister]
    · have hne : place ≠ other := fun hsame =>
        hother hsame.symm name values rfl
      rw [List.getElem?_set_ne hne]
      exact hs
    · cases hreply
  · have hrefused : r.register shelf.turns name values
        = .error (.invalidScript name) :=
      r.register_refused shelf.turns hname values
    refine ⟨_, _, .of_unchanged h ?_ (.refused values hname) ?_⟩
    · simp only [act?, hr, Option.bind_eq_bind, Option.bind_some, hrefused]
    · rw [after, if_neg hname]

theorem exists_serves_call (name : Text) :
    ∃ reply shelf', a.Serves shelf place (.call name) reply shelf' := by
  have hfollows := h.registry place r hr
  cases hlookup : (a.book place).lookup name with
  | none =>
    have hfind := hfollows.unbound name hlookup
    have hunknown : name ∉ a.names place := by
      rw [names, ← hfollows.find?_isSome_iff, hfind]
      exact Bool.false_ne_true
    refine ⟨_, _, .of_unchanged h ?_ (.unknown hunknown) ?_⟩
    · simp only [act?, hr, Option.bind_eq_bind, Option.bind_some, hfind]
    · simp only [after, hlookup]
  | some number =>
    obtain ⟨registration, hmade, hname, hfind⟩ :=
      hfollows.bound name number hlookup
    have hvalue := (h.turns.call hmade).1
    have hdescribes := h.call hlookup hmade
    refine ⟨_, _, ?_, ⟨.returned hlookup hmade hname, fun other s hs _ => ?_,
      fun error hreply => ?_⟩, hdescribes⟩
    · simp only [act?, hr, Option.bind_eq_bind, Option.bind_some, hfind,
        hvalue]
    · exact hs
    · cases hreply

theorem serves_contains (name : Text) :
    a.Serves shelf place (.contains name) (.flag (r.contains name))
      shelf := by
  refine .of_unchanged h ?_
    (.contains ((h.registry place r hr).contains_iff name)) rfl
  simp only [act?, hr]
  rfl

end Requests

/-- Whatever is asked of a registry that is there, it is served. -/
theorem Describes.exists_serves (h : a.Describes shelf)
    (hplace : place < a.books.length) (request : Request) :
    ∃ reply shelf', a.Serves shelf place request reply shelf' := by
  rw [← h.length_eq] at hplace
  have hr := List.getElem?_eq_getElem hplace
  cases request with
  | clone => exact ⟨_, _, serves_clone h hr⟩
  | register name values => exact exists_serves_register h hr name values
  | call name => exact exists_serves_call h hr name
  | contains name => exact ⟨_, _, serves_contains h hr name⟩

-- ============================================================ whole runs

/-- On a shelf that the annals describe, requests for registries that are
there are all answered, and go as the annals say. -/
theorem tells_of_describes (h : a.Describes shelf)
    {requests : List (Nat × Request)}
    (hplaced : Placed a.books.length requests) :
    ∃ results, shelf.run? requests = some results
      ∧ a.Tells shelf requests results := by
  induction requests generalizing a shelf with
  | nil => exact ⟨[], rfl, .nil h.fits⟩
  | cons first more ih =>
    obtain ⟨place, request⟩ := first
    obtain ⟨hplace, hmore⟩ := hplaced
    obtain ⟨reply, shelf', hserves⟩ := h.exists_serves hplace request
    rw [← length_books_after] at hmore
    obtain ⟨later, hrun, htells⟩ := ih hserves.describes hmore
    refine ⟨(reply, shelf') :: later, ?_,
      .cons h.fits hserves.step htells⟩
    simp only [run?, hserves.act, Option.bind_eq_bind, Option.bind_some,
      hrun]

theorem describes_start : start.Describes Shelf.start := by
  refine ⟨rfl, fun place r hr => ?_, .nil⟩
  cases place with
  | zero =>
    cases hr
    exact .empty []
  | succ place => cases hr

/-- Whatever is done with an empty registry and copies of copies of it,
each has the names that were registered in it or were there when it was
copied, and calls return what is due after all the calls before. -/
theorem tells_run {requests : List (Nat × Request)}
    (hplaced : Placed 1 requests) :
    ∃ results, Shelf.start.run? requests = some results
      ∧ start.Tells Shelf.start requests results :=
  tells_of_describes describes_start hplaced

/-- A name is registered, copied, and registered again in the copy, with
calls on both sides. -/
theorem tells_run_registered_again :
    let requests : List (Nat × Request) :=
      [(0, .register ['n'] [.json (.int 1), .nan]), (0, .clone),
        (0, .call ['n']), (1, .call ['n']),
        (1, .register ['n'] [.json (.int 7)]), (1, .call ['n']),
        (0, .call ['n']), (1, .clone), (2, .contains ['n']),
        (2, .register ['1'] [])]
    Placed 1 requests
      ∧ ∃ results, Shelf.start.run? requests = some results
        ∧ start.Tells Shelf.start requests results := by
  intro requests
  have hplaced : Placed 1 requests := by
    simp only [requests, Placed, Request.copies]
    decide
  exact ⟨hplaced, tells_run hplaced⟩

end Annals

end Stencil
