/-
What `??` means: the left side if it has a value, else the right side.

# Reading

A text is cut at each `??` from the left, so a cut that is put between
two texts is found there unless the left one ends in half a `??` of its
own: of `a???b` the first two marks are the cut. That half is there just
when the `?` at the end of the left text are odd in number
(`trailingMarks`); for even ones `cut` distributes over the joint
(`cut_append`), by the recursion of `cut` over the left text.

# Evaluating

A chain is tried as a whole, and two chains in a row are tried as one
(`eval_append`): as long as alternatives fail, their reasons, calls and
events are put in front of those to come, and a value ends everything.
`Effect.coalesce` is that rule for two evaluations.

Main statement: `eval_parse_coalesced`, the law for the chain that is
read from two texts with `??` between them.
-/
import Stencil.Evaluation

namespace Stencil

-- ================================================ statement vocabulary

/-- How many `?` a text ends in. -/
def trailingMarks (t : Text) : Nat := (t.reverse.takeWhile (· = '?')).length

/-- An evaluation with another one to fall back on: unless it gives a
value, the other one goes on from the turns it leaves, and fails for the
reasons of both. -/
def Effect.coalesce (first : Effect (Except (List Reason) Json))
    (second : Turns → Effect (Except (List Reason) Json)) :
    Effect (Except (List Reason) Json) :=
  match first.result with
  | .ok _ => first
  | .error reasons =>
    let other := second first.turns
    { result := other.result.mapError (reasons ++ ·)
      turns := other.turns
      calls := first.calls ++ other.calls
      log := first.log ++ other.log }

-- ============================================================== falling back

theorem mapError_id {α ε : Type} (x : Except ε α) :
    x.mapError (fun e => e) = x := by
  cases x <;> rfl

theorem mapError_mapError {α ε : Type} (x : Except ε α) (f g : ε → ε) :
    (x.mapError f).mapError g = x.mapError (fun e => g (f e)) := by
  cases x <;> rfl

namespace Effect

variable {first : Effect (Except (List Reason) Json)}
  {second : Turns → Effect (Except (List Reason) Json)}

theorem coalesce_of_ok {value : Json} (h : first.result = .ok value) :
    first.coalesce second = first := by
  rw [coalesce, h]

theorem coalesce_of_error {reasons : List Reason}
    (h : first.result = .error reasons) :
    first.coalesce second
      = { result := (second first.turns).result.mapError (reasons ++ ·)
          turns := (second first.turns).turns
          calls := first.calls ++ (second first.turns).calls
          log := first.log ++ (second first.turns).log } := by
  rw [coalesce, h]

end Effect

-- ====================================================== the marks behind

theorem trailingMarks_le_length (t : Text) : trailingMarks t ≤ t.length := by
  have h := (t.reverse.takeWhile_prefix (p := (· = '?'))).length_le
  rwa [List.length_reverse] at h

/-- A character in front counts only as a `?` before nothing but `?`. -/
theorem trailingMarks_cons (c : Char) (t : Text) :
    trailingMarks (c :: t)
      = if trailingMarks t = t.length ∧ c = '?' then t.length + 1
        else trailingMarks t := by
  unfold trailingMarks
  rw [List.reverse_cons, List.takeWhile_append, List.length_reverse]
  by_cases hall : (t.reverse.takeWhile (· = '?')).length = t.length
  · by_cases hc : c = '?' <;> simp [hall, hc]
  · simp [hall]

/-- A text that does not start with `?` is not all `?`. -/
theorem trailingMarks_cons_lt {c : Char} (t : Text) (hc : c ≠ '?') :
    trailingMarks (c :: t) < (c :: t).length := by
  have hle := trailingMarks_le_length t
  rw [trailingMarks_cons, if_neg (fun h => hc h.2), List.length_cons]
  omega

/-- Two `?` in front do not make odd what is even. -/
theorem trailingMarks_pair (t : Text) :
    trailingMarks ('?' :: '?' :: t) % 2 = trailingMarks t % 2 := by
  have hle := trailingMarks_le_length t
  simp only [trailingMarks_cons, List.length_cons]
  by_cases hall : trailingMarks t = t.length
  · simp [hall]
    omega
  · have hne : trailingMarks t ≠ t.length + 1 := by omega
    simp [hall, hne]

/-- A character that starts no `??` can be left out of the count, if that
is even. -/
theorem trailingMarks_single {c : Char} {t : Text}
    (hpair : ∀ t', c = '?' → t ≠ '?' :: t')
    (heven : trailingMarks (c :: t) % 2 = 0) :
    trailingMarks t % 2 = 0 ∧ (c = '?' → t ≠ []) := by
  by_cases hc : c = '?'
  · subst hc
    cases t with
    | nil => exact absurd heven (by decide)
    | cons d t =>
      have hlt := trailingMarks_cons_lt t (fun h : d = '?' =>
        hpair t rfl (by rw [h]))
      rw [trailingMarks_cons, if_neg (by omega)] at heven
      exact ⟨heven, fun _ => List.cons_ne_nil d t⟩
  · rw [trailingMarks_cons, if_neg (fun h => hc h.2)] at heven
    exact ⟨heven, fun h => absurd h hc⟩

-- ================================================================ reading

namespace Expression

/-- A cut between two texts is one of the whole, if no half of a `??` is
left in front of it. -/
theorem cut_append {a : Text} (b : Text) (heven : trailingMarks a % 2 = 0) :
    cut (a ++ ['?', '?'] ++ b) = cut a ++ cut b := by
  fun_induction cut a with
  | case1 => rfl
  | case2 t ih =>
    rw [trailingMarks_pair] at heven
    exact congrArg _ (ih heven)
  | case3 c t hpair hnil ih => exact absurd hnil (cut_ne_nil t)
  | case4 c t hpair piece pieces hcut ih =>
    obtain ⟨heven, hne⟩ := trailingMarks_single hpair heven
    have hfirst : ∀ t', c = '?' → t ++ ['?', '?'] ++ b ≠ '?' :: t' := by
      intro t' hc h
      obtain ⟨d, t, rfl⟩ := List.exists_cons_of_ne_nil (hne hc)
      injection h with hd
      exact hpair t hc (by rw [hd])
    rw [List.cons_append, List.cons_append, cut.eq_3 c _ hfirst, ih heven,
      hcut]
    rfl

-- Half a `??` in front of the joint moves the cut by one character.
example :
    cut (['a', '?'] ++ ['?', '?'] ++ ['b']) = [['a'], ['?', 'b']] := by
  decide

/-- Reading a chain is reading its two sides. -/
theorem parse_append {a : Text} (b : Text)
    (heven : trailingMarks a % 2 = 0) :
    parse (a ++ ['?', '?'] ++ b) = parse a ++ parse b := by
  unfold parse
  rw [cut_append b heven, List.map_append]

-- ============================================================= evaluating

/-- Two chains in a row are the first with the second to fall back on. -/
theorem eval_append (ctx : Context) (turns : Turns) (p q : Expression) :
    Expression.eval ctx turns (p ++ q)
      = (p.eval ctx turns).coalesce (fun turns => q.eval ctx turns) := by
  induction p generalizing turns with
  | nil =>
    rw [List.nil_append, eval, Effect.coalesce_of_error rfl]
    simp only [List.nil_append, mapError_id]
  | cons alternative rest ih =>
    rw [List.cons_append]
    cases hfirst : (alternative.eval ctx turns).result with
    | ok value =>
      rw [eval_cons_of_ok _ hfirst, eval_cons_of_ok _ hfirst]
      exact (Effect.coalesce_of_ok rfl).symm
    | error reason =>
      rw [eval_cons_of_error _ hfirst, eval_cons_of_error _ hfirst, ih]
      cases hrest :
          (eval ctx (alternative.eval ctx turns).turns rest).result with
      | ok value =>
        rw [Effect.coalesce_of_ok hrest, Effect.coalesce_of_ok rfl, hrest]
      | error reasons =>
        rw [Effect.coalesce_of_error hrest, Effect.coalesce_of_error rfl]
        simp only [mapError_mapError, List.append_assoc, List.cons_append]

/-- A chain read from two texts with `??` between them has the value of
the left one, and nothing on the right is then tried; if the left one has
none, it has that of the right one, tried from the turns that the left
one leaves. -/
theorem eval_parse_coalesced {a b : Text}
    (heven : trailingMarks a % 2 = 0) :
    parse (a ++ ['?', '?'] ++ b) = parse a ++ parse b
      ∧ ∀ (ctx : Context) (turns : Turns),
        (parse (a ++ ['?', '?'] ++ b)).eval ctx turns
          = ((parse a).eval ctx turns).coalesce
              (fun turns => (parse b).eval ctx turns) := by
  refine ⟨parse_append b heven, fun ctx turns => ?_⟩
  rw [parse_append b heven]
  exact eval_append ctx turns (parse a) (parse b)

theorem eval_parse_coalesced_behind_marks :
    trailingMarks ['a', '?', '?'] % 2 = 0
      ∧ parse (['a', '?', '?'] ++ ['?', '?'] ++ ['?', 'b'])
          = parse ['a', '?', '?'] ++ parse ['?', 'b']
      ∧ ∀ (ctx : Context) (turns : Turns),
        (parse (['a', '?', '?'] ++ ['?', '?'] ++ ['?', 'b'])).eval ctx turns
          = ((parse ['a', '?', '?']).eval ctx turns).coalesce
              (fun turns => (parse ['?', 'b']).eval ctx turns) :=
  ⟨by decide, eval_parse_coalesced (by decide)⟩

end Expression

end Stencil
