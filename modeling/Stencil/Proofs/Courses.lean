/-
What a cursor passes, step by step.

Whatever steps are taken over a text, also such as fail, the cursor
stands behind a front part of the text, at the byte position where that
part ends. Each step passes the next piece, and its answer says which
one (`Takes`): an identifier and what comes before a character are passed
as they are answered, a number with all its digits, a character by
itself. Looking passes nothing, and neither does failing, but for two
steps: a number that is none has its sign and digits passed, and a
character that never comes has everything passed.

# The argument

Each step has one lemma that says what it does where it succeeds and
where it fails (`identifier_cases` and those behind it). What is passed
is the longest front part of some kind in the case of identifiers and
numbers; that this is what going on as long as the next character fits
arrives at is `prefix_takeWhile`. From these a step takes the piece that
it should (`exists_takes`), and by induction so does every step of a
course.

Main statement: `course_run`.
-/
import Mathlib.Data.List.TakeWhile
import Stencil.Proofs.Grammar

namespace Stencil

open Text

-- ================================================ statement vocabulary

/-- The front part of a text that is the longest one of some kind. -/
structure Longest (kind : Text → Prop) (t front : Text) : Prop where
  within : front <+: t
  fits : kind front
  longest : ∀ other, other <+: t → kind other → other <+: front

/-- Some digits, or none, with or without a `-` in front. -/
inductive SignedDigits : Text → Prop where
  | plain {digits : Text} : (∀ c ∈ digits, c.isDigit = true) →
      SignedDigits digits
  | minus {digits : Text} : (∀ c ∈ digits, c.isDigit = true) →
      SignedDigits ('-' :: digits)

/-- The text starts with a character that an identifier may start with. -/
def StartsName (t : Text) : Prop :=
  ∃ x, t.head? = some x ∧ isIdentStart x = true

namespace Cursor

/-- The cursor stands in a text behind a front part of it, at the byte
position where that part ends. -/
structure Behind (c : Cursor) (t passed : Text) : Prop where
  text_eq : t = passed ++ c.rest
  offset_eq : c.offset = byteLength passed

/-- What a step passes that is answered in this way. -/
inductive Takes (c : Cursor) : Request → Reply → Text → Prop where
  | identifier {name : Text} :
      Longest (isIdentifier · = true) c.rest name →
      Takes c .identifier (.text name) name
  | noIdentifier : ¬ StartsName c.rest →
      Takes c .identifier (.failed (.identifierExpected c.offset)) []
  | integer {numeral : Text} {i : Int} :
      Longest SignedDigits c.rest numeral → Path.Numeral numeral i →
      Path.IndexRange i → Takes c .integer (.integer i) numeral
  | noDigits {taken : Text} :
      Longest SignedDigits c.rest taken → (∀ i, ¬ Path.Numeral taken i) →
      Takes c .integer (.failed .integerExpected) taken
  | tooLarge {numeral : Text} {i : Int} :
      Longest SignedDigits c.rest numeral → Path.Numeral numeral i →
      ¬ Path.IndexRange i →
      Takes c .integer (.failed .integerTooLarge) numeral
  | upTo {stop : Char} {taken behind : Text} :
      c.rest = taken ++ stop :: behind → stop ∉ taken →
      Takes c (.upTo stop) (.text taken) taken
  | noStop {stop : Char} : stop ∉ c.rest →
      Takes c (.upTo stop) (.failed (.charExpected stop)) c.rest
  | expect {x : Char} : c.rest.head? = some x →
      Takes c (.expect x) .passed [x]
  | notExpected {x : Char} : c.rest.head? ≠ some x →
      Takes c (.expect x) (.failed (.charExpected x)) []
  | accept {x : Char} : c.rest.head? = some x →
      Takes c (.accept x) (.flag true) [x]
  | notAccepted {x : Char} : c.rest.head? ≠ some x →
      Takes c (.accept x) (.flag false) []
  | peek : Takes c .peek (.char c.rest.head?) []
  | atEnd {b : Bool} : (b = true ↔ c.rest = []) →
      (b = true ↔ c.peek = none) → Takes c .atEnd (.flag b) []

/-- The cursor after steps. -/
def after (c : Cursor) (requests : List Request) : Cursor :=
  requests.foldl (fun c request => (c.step request).2) c

/-- A course of steps from a place behind `passed`: what each step is
answered, where it leads and the piece of the text that it passes. -/
inductive Course (t : Text) :
    Text → Cursor → List Request → List (Reply × Cursor) → List Text →
      Prop where
  | nil {passed : Text} {c : Cursor} : c.Behind t passed →
      Course t passed c [] [] []
  | cons {passed piece : Text} {c after : Cursor} {request : Request}
      {reply : Reply} {more : List Request}
      {replies : List (Reply × Cursor)} {pieces : List Text} :
      c.Behind t passed → c.Takes request reply piece →
      Course t (passed ++ piece) after more replies pieces →
      Course t passed c (request :: more) ((reply, after) :: replies)
        (piece :: pieces)

end Cursor

-- ==================================================== longest front parts

namespace Longest

variable {kind : Text → Prop} {t front other : Text}

theorem unique (h : Longest kind t front) (h' : Longest kind t other) :
    front = other :=
  (h'.longest front h.within h.fits).eq_of_length_le
    (h.longest other h'.within h'.fits).length_le

end Longest

/-- A front part all of whose characters fit is found by going on as long
as they do. -/
theorem prefix_takeWhile {p : Char → Bool} {t front : Text}
    (h : front <+: t) (hp : ∀ c ∈ front, p c = true) :
    front <+: t.takeWhile p := by
  obtain ⟨rest, rfl⟩ := h
  rw [List.takeWhile_append_of_pos hp]
  exact List.prefix_append ..

/-- What is passed for a number is the longest front part that could
belong to one. -/
theorem longest_signedDigits (t : Text) :
    Longest SignedDigits t
      ((splitSign t).1 ++ (splitSign t).2.takeWhile Char.isDigit) := by
  have htaken : ∀ body : Text, ∀ c ∈ body.takeWhile Char.isDigit,
      c.isDigit = true := fun body => List.all_eq_true.1 List.all_takeWhile
  have hminus : ¬ Char.isDigit '-' = true := by decide
  rcases Path.splitSign_cases t with ⟨body, rfl, hsplit⟩ | hsplit
  · rw [hsplit]
    refine ⟨List.cons_prefix_cons.2 ⟨rfl, List.takeWhile_prefix _⟩,
      .minus (htaken body), fun other hother hfits => ?_⟩
    cases hfits with
    | plain hdigits =>
      cases other with
      | nil => exact List.nil_prefix
      | cons c other =>
        obtain ⟨rfl, -⟩ := List.cons_prefix_cons.1 hother
        exact absurd (hdigits _ (List.mem_cons_self ..)) hminus
    | @minus digits hdigits =>
      obtain ⟨-, hbody⟩ := List.cons_prefix_cons.1 hother
      exact List.cons_prefix_cons.2 ⟨rfl, prefix_takeWhile hbody hdigits⟩
  · rw [hsplit, List.nil_append]
    refine ⟨List.takeWhile_prefix _, .plain (htaken t),
      fun other hother hfits => ?_⟩
    cases hfits with
    | plain hdigits => exact prefix_takeWhile hother hdigits
    | @minus digits hdigits =>
      obtain ⟨rest, rfl⟩ := hother
      cases hsplit

/-- A text starts with what a name may start with if a name stands in
front of it. -/
theorem startsName_append {name : Text} (rest : Text)
    (hname : isIdentifier name = true) : StartsName (name ++ rest) := by
  cases name with
  | nil => cases hname
  | cons x name =>
    rw [isIdentifier, Bool.and_eq_true] at hname
    exact ⟨x, rfl, hname.1⟩

namespace Path

/-- Digits with or without a sign are a numeral if there are any. -/
theorem exists_numeral {t : Text} (h : SignedDigits t) {d : Char}
    (hmem : d ∈ t) (hd : d.isDigit = true) : ∃ i, Numeral t i := by
  have hne : ∀ {digits : Text}, d ∈ digits → digits ≠ [] :=
    fun hmem hnil => by rw [hnil] at hmem; cases hmem
  cases h with
  | plain hdigits => exact ⟨_, .plain (hne hmem) hdigits⟩
  | minus hdigits =>
    rcases List.mem_cons.1 hmem with rfl | hmem
    · exact absurd hd (by decide)
    · exact ⟨_, .minus (hne hmem) hdigits⟩

end Path

-- ========================================================== single steps

namespace Cursor

/-- The longest identifier is passed; where none starts, nothing is. -/
theorem identifier_cases (c : Cursor) :
    (∃ name behind, c.rest = name ++ behind
        ∧ Longest (isIdentifier · = true) c.rest name
        ∧ c.identifier = (.ok name, c.past name behind))
      ∨ ¬ StartsName c.rest
        ∧ c.identifier = (.error (.identifierExpected c.offset), c) := by
  rw [identifier]
  cases hrest : c.rest with
  | nil =>
    refine .inr ⟨?_, rfl⟩
    rintro ⟨x, hx, -⟩
    cases hx
  | cons x t =>
    by_cases hstart : isIdentStart x = true
    · refine .inl ⟨x :: t.takeWhile isIdentContinue,
        t.dropWhile isIdentContinue, ?_, ⟨?_, ?_, fun other hother hfits => ?_⟩,
        if_pos hstart⟩
      · rw [List.cons_append, List.takeWhile_append_dropWhile]
      · exact List.cons_prefix_cons.2 ⟨rfl, List.takeWhile_prefix _⟩
      · simp only [isIdentifier, hstart, List.all_takeWhile, Bool.and_self]
      · cases other with
        | nil => exact List.nil_prefix
        | cons y other =>
          obtain ⟨rfl, htail⟩ := List.cons_prefix_cons.1 hother
          simp only [isIdentifier, Bool.and_eq_true,
            List.all_eq_true] at hfits
          exact List.cons_prefix_cons.2 ⟨rfl, prefix_takeWhile htail hfits.2⟩
    · refine .inr ⟨?_, if_neg hstart⟩
      rintro ⟨y, hy, hstart'⟩
      cases hy
      exact hstart hstart'

/-- The sign and all digits are passed, whatever comes of them: it is an
error if there is no digit, and if the number has more than 64 bits. -/
theorem integer_cases (c : Cursor) :
    ∃ taken behind, c.rest = taken ++ behind
      ∧ Longest SignedDigits c.rest taken
      ∧ ((∀ i, ¬ Path.Numeral taken i)
            ∧ c.integer = (.error .integerExpected, c.past taken behind)
          ∨ ∃ i, Path.Numeral taken i
            ∧ c.integer
              = (if isInt64 i then .ok i else .error .integerTooLarge,
                c.past taken behind)) := by
  obtain ⟨sign, body, hsplit⟩ : ∃ sign body,
      splitSign c.rest = (sign, body) := ⟨_, _, rfl⟩
  have hlongest := longest_signedDigits c.rest
  have happend := splitSign_append c.rest
  rw [hsplit] at hlongest happend
  simp only at hlongest happend
  have hdigits : ∀ d ∈ body.takeWhile Char.isDigit, d.isDigit = true :=
    List.all_eq_true.1 List.all_takeWhile
  have hsign : sign = [] ∨ sign = ['-'] := by
    rcases Path.splitSign_cases c.rest with ⟨_, -, h⟩ | h <;>
      rw [hsplit] at h <;> cases h
    · exact .inr rfl
    · exact .inl rfl
  refine ⟨sign ++ body.takeWhile Char.isDigit, body.dropWhile Char.isDigit,
    ?_, hlongest, ?_⟩
  · rw [List.append_assoc, List.takeWhile_append_dropWhile, happend]
  · simp only [integer, hsplit]
    by_cases hnone : body.takeWhile Char.isDigit = []
    · refine .inl ⟨fun i hnumeral => ?_, by rw [if_pos hnone]⟩
      rw [hnone, List.append_nil] at hnumeral
      rcases hsign with rfl | rfl
      · cases hnumeral with
        | plain hne => exact hne rfl
      · cases hnumeral with
        | plain _ hdigit =>
          exact absurd (hdigit '-' (List.mem_cons_self ..)) (by decide)
        | minus hne => exact hne rfl
    · refine .inr ⟨integerValue sign (body.takeWhile Char.isDigit), ?_, ?_⟩
      · rcases hsign with rfl | rfl
        · exact .plain hnone hdigits
        · exact .minus hnone hdigits
      · rw [if_neg hnone]
        split <;> rfl

/-- What comes before a character is passed, and all that is left if the
character does not come. -/
theorem upTo_cases (stop : Char) (c : Cursor) :
    (∃ taken behind, c.rest = taken ++ stop :: behind ∧ stop ∉ taken
        ∧ c.upTo stop = (.ok taken, c.past taken (stop :: behind)))
      ∨ stop ∉ c.rest
        ∧ c.upTo stop = (.error (.charExpected stop), c.past c.rest []) := by
  by_cases hstop : stop ∈ c.rest
  · obtain ⟨taken, behind, hrest, htaken⟩ :=
      List.eq_append_cons_of_mem hstop
    exact .inl ⟨taken, behind, hrest, htaken, upTo_of_append hrest htaken⟩
  · have hpasses : ∀ d ∈ c.rest, (decide (d ≠ stop)) = true := by
      intro d hd
      have : d ≠ stop := fun h => hstop (h ▸ hd)
      simpa using this
    have hnone : c.rest.dropWhile (fun d => decide (d ≠ stop)) = [] :=
      List.dropWhile_eq_nil_iff.2 hpasses
    refine .inr ⟨hstop, ?_⟩
    rw [upTo, if_pos hnone, hnone, List.takeWhile_eq_self_iff.2 hpasses]

/-- A character is passed if it comes next, and nothing otherwise. -/
theorem accept_cases (x : Char) (c : Cursor) :
    (∃ behind, c.rest = x :: behind
        ∧ c.accept x = (true, c.past [x] behind))
      ∨ c.rest.head? ≠ some x ∧ c.accept x = (false, c) := by
  rw [accept]
  cases hrest : c.rest with
  | nil =>
    refine .inr ⟨fun h => ?_, rfl⟩
    cases h
  | cons y t =>
    by_cases heq : y = x
    · subst heq
      exact .inl ⟨t, rfl, if_pos rfl⟩
    · exact .inr ⟨by simpa using heq, if_neg heq⟩

theorem expect_eq (x : Char) (c : Cursor) :
    c.expect x
      = (if (c.accept x).1 then .ok () else .error (.charExpected x),
        (c.accept x).2) := by
  rw [expect]
  split <;> next h => rw [h]; rfl

/-- Each step passes the piece that it should. -/
theorem exists_takes (c : Cursor) (request : Request) :
    ∃ piece, c.Takes request (c.step request).1 piece
      ∧ c.rest = piece ++ (c.step request).2.rest := by
  cases request with
  | identifier =>
    rcases c.identifier_cases with ⟨name, behind, hrest, hlongest, h⟩ | ⟨hno, h⟩
    · simp only [step, h]
      exact ⟨name, .identifier hlongest, hrest⟩
    · simp only [step, h]
      exact ⟨[], .noIdentifier hno, rfl⟩
  | integer =>
    obtain ⟨taken, behind, hrest, hlongest, ⟨hnone, h⟩ | ⟨i, hnumeral, h⟩⟩ :=
      c.integer_cases
    · simp only [step, h]
      exact ⟨taken, .noDigits hlongest hnone, hrest⟩
    · simp only [step, h]
      by_cases hrange : isInt64 i = true
      · simp only [if_pos hrange]
        rw [Path.isInt64_iff] at hrange
        exact ⟨taken, .integer hlongest hnumeral hrange, hrest⟩
      · simp only [if_neg hrange]
        rw [Path.isInt64_iff] at hrange
        exact ⟨taken, .tooLarge hlongest hnumeral hrange, hrest⟩
  | upTo stop =>
    rcases c.upTo_cases stop with ⟨taken, behind, hrest, htaken, h⟩ | ⟨hno, h⟩
    · simp only [step, h]
      exact ⟨taken, .upTo hrest htaken, hrest⟩
    · simp only [step, h]
      exact ⟨c.rest, .noStop hno, (List.append_nil _).symm⟩
  | expect x =>
    rcases c.accept_cases x with ⟨behind, hrest, h⟩ | ⟨hno, h⟩
    · simp only [step, expect_eq, h]
      exact ⟨[x], .expect (by rw [hrest]; rfl), hrest⟩
    · simp only [step, expect_eq, h]
      exact ⟨[], .notExpected hno, rfl⟩
  | accept x =>
    rcases c.accept_cases x with ⟨behind, hrest, h⟩ | ⟨hno, h⟩
    · simp only [step, h]
      exact ⟨[x], .accept (by rw [hrest]; rfl), hrest⟩
    · simp only [step, h]
      exact ⟨[], .notAccepted hno, rfl⟩
  | peek => exact ⟨[], .peek, rfl⟩
  | atEnd =>
    refine ⟨[], .atEnd List.isEmpty_iff ?_, rfl⟩
    rw [peek, List.head?_eq_none_iff]
    exact List.isEmpty_iff

-- =============================================================== courses

variable {t passed : Text} {c : Cursor}

/-- A step leads behind the piece that it passes. -/
theorem Behind.step (h : c.Behind t passed) {request : Request}
    {piece : Text} (hpiece : c.rest = piece ++ (c.step request).2.rest) :
    (c.step request).2.Behind t (passed ++ piece) := by
  obtain ⟨taken, htaken, hoffset⟩ := c.step_moves request
  have hsame : taken = piece :=
    List.append_cancel_right (htaken.symm.trans hpiece)
  constructor
  · rw [h.text_eq, hpiece, List.append_assoc]
  · rw [hoffset, h.offset_eq, hsame, byteLength_append]

/-- Every step of a run passes the piece that it should, and the run ends
behind all the pieces. -/
theorem Behind.exists_course (h : c.Behind t passed)
    (requests : List Request) :
    ∃ pieces, Course t passed c requests (c.run requests) pieces
      ∧ (c.after requests).Behind t (passed ++ pieces.flatten) := by
  induction requests generalizing c passed with
  | nil =>
    refine ⟨[], .nil h, ?_⟩
    rwa [List.flatten_nil, List.append_nil]
  | cons request more ih =>
    obtain ⟨piece, htakes, hpiece⟩ := c.exists_takes request
    obtain ⟨pieces, hcourse, hend⟩ := ih (h.step hpiece)
    refine ⟨piece :: pieces, .cons h htakes hcourse, ?_⟩
    rwa [List.flatten_cons, ← List.append_assoc]

namespace Course

variable {requests : List Request} {replies : List (Reply × Cursor)}
  {pieces : List Text}

theorem behind (h : Course t passed c requests replies pieces) :
    c.Behind t passed := by
  cases h <;> assumption

/-- No step leads back. -/
theorem offset_le (h : Course t passed c requests replies pieces) :
    ∀ entry ∈ replies, c.offset ≤ entry.2.offset := by
  induction h with
  | nil => exact fun _ hmem => nomatch hmem
  | cons hbehind _ hmore ih =>
    have hnext := hmore.behind.offset_eq
    rw [byteLength_append, ← hbehind.offset_eq] at hnext
    intro entry hentry
    rcases List.mem_cons.1 hentry with rfl | hentry
    · exact hnext ▸ Nat.le_add_right ..
    · have hlater := ih entry hentry
      omega

theorem pairwise_offset (h : Course t passed c requests replies pieces) :
    (replies.map fun entry => entry.2.offset).Pairwise (· ≤ ·) := by
  induction h with
  | nil => exact .nil
  | cons _ _ hmore ih =>
    refine List.pairwise_cons.2 ⟨fun offset hoffset => ?_, ih⟩
    obtain ⟨entry, hentry, rfl⟩ := List.mem_map.1 hoffset
    exact hmore.offset_le entry hentry

end Course

/-- Over every text and with all steps, a cursor stands behind the pieces
that the steps so far have passed, at the byte position where they end;
each step passes the piece that it should. The position never goes back,
and the pieces with what is left are the text. -/
theorem course_run (t : Text) (requests : List Request) :
    ∃ pieces,
      Course t [] (start t) requests ((start t).run requests) pieces
        ∧ (((start t).run requests).map fun entry =>
            entry.2.offset).Pairwise (· ≤ ·)
        ∧ ((start t).after requests).Behind t pieces.flatten := by
  have hstart : (start t).Behind t [] := ⟨rfl, rfl⟩
  obtain ⟨pieces, hcourse, hend⟩ := hstart.exists_course requests
  exact ⟨pieces, hcourse, hcourse.pairwise_offset, hend⟩

-- A number without digits fails behind its sign, a character that never
-- comes fails at the end.
example :
    ((start "é-.]".toList).run [.identifier, .integer, .upTo 'x']).map
        (fun entry => (entry.2.offset, entry.2.rest))
      = [(2, "-.]".toList), (3, ".]".toList), (5, [])] := by
  decide +kernel

end Cursor

end Stencil
