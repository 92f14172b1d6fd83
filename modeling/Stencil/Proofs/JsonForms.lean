/-
The written forms of JSON, said without reading them.

White space (`Gap`), strings with their escapes (`Quoted`), lists and
objects (`Listed`, `Member`) are relations between a text and what it
stands for. Whoever writes chooses the white space and the escapes, so the
same thing has many written forms. What stands in a list or behind a name
is left open: a reader of some fixed shape puts its own forms there.

# Reading is taking a form

A reader `Accepts` forms if it takes one from the front of a text, with
white space before it, and leaves the rest. The forms here show by
themselves where they end, so that nothing has to be said of what stands
behind. A list is read item by item: the white space before a comma
belongs to the item before it, and what a reader is left with is the rest
of the list (`items_eq_ok_iff`, `members_eq_ok_iff`).

Main statements: `string_eq_ok_iff_quoted`, `items_eq_ok_iff`,
`members_eq_ok_iff`, `whole?_eq_ok_iff`.
-/
import Mathlib.Data.List.Forall2
import Stencil.Proofs.JsonRoundTrip

namespace Stencil.Json

open Text

-- ================================================ statement vocabulary

/-- White space between the parts of a document. -/
def Gap (t : Text) : Prop := ∀ c ∈ t, c ∈ [' ', '\t', '\n', '\r']

/-- A hexadecimal digit, small or large, and its value. -/
def HexDigit (c : Char) (n : Nat) : Prop :=
  n < 16 ∧ (c = Nat.digitChar n ∨ c = (Nat.digitChar n).toUpper)

/-- Four hexadecimal digits and their value. -/
inductive HexUnit : Text → Nat → Prop where
  | intro {a b c d : Char} {i j k l : Nat} :
      HexDigit a i → HexDigit b j → HexDigit c k → HexDigit d l →
      HexUnit [a, b, c, d] (((i * 16 + j) * 16 + k) * 16 + l)

/-- The escapes of one letter, each with what it stands for. -/
def shorthands : List (Char × Char) :=
  [('"', '"'), ('\\', '\\'), ('/', '/'), ('b', '\x08'), ('f', '\x0c'),
    ('n', '\n'), ('r', '\r'), ('t', '\t')]

/-- What stands behind the backslash of an escape, and the character that
it stands for. -/
inductive Escape : Text → Char → Prop where
  | letter {letter c : Char} : (letter, c) ∈ shorthands → Escape [letter] c
  | unit {digits : Text} {c : Char} :
      HexUnit digits c.toNat → Escape ('u' :: digits) c
  /-- A character beyond the first plane, by its two surrogates. -/
  | pair {digits digits' : Text} {leading trailing : Nat} {c : Char} :
      HexUnit digits leading → HexUnit digits' trailing →
      0xD800 ≤ leading ∧ leading < 0xDC00 →
      0xDC00 ≤ trailing ∧ trailing < 0xE000 →
      c.toNat
        = 0x10000 + (leading - 0xD800) * 0x400 + (trailing - 0xDC00) →
      Escape ('u' :: (digits ++ '\\' :: 'u' :: digits')) c

/-- What stands between quotes, and the string that it stands for. -/
inductive Body : Text → Text → Prop where
  | nil : Body [] []
  | plain {c : Char} {t s : Text} :
      ' ' ≤ c → c ≠ '"' → c ≠ '\\' → Body t s → Body (c :: t) (c :: s)
  | escape {e t s : Text} {c : Char} :
      Escape e c → Body t s → Body ('\\' :: (e ++ t)) (c :: s)

/-- A string in quotes. -/
inductive Quoted : Text → Text → Prop where
  | intro {t s : Text} : Body t s → Quoted ('"' :: (t ++ ['"'])) s

section Containers

variable {α : Type}

/-- A form with white space around it. -/
def Spaced (Form : Text → α → Prop) (t : Text) (x : α) : Prop :=
  ∃ before form after, Gap before ∧ Form form x ∧ Gap after
    ∧ t = before ++ form ++ after

/-- Forms between two brackets, with commas between them. -/
def Listed (opening closing : Char) (Form : Text → α → Prop) (t : Text)
    (xs : List α) : Prop :=
  ∃ gap parts, Gap gap ∧ List.Forall₂ (Spaced Form) parts xs
    ∧ t = opening :: (gap ++ joinWith "," parts ++ [closing])

/-- A member of an object: its name, and behind a colon what stands for its
value. -/
def Member (name : α → Text) (Form : Text → α → Prop) (t : Text) (x : α) :
    Prop :=
  ∃ key before after form, Quoted key (name x) ∧ Gap before ∧ Gap after
    ∧ Form form x ∧ t = key ++ (before ++ ':' :: (after ++ form))

namespace Reader

/-- The reader takes these forms, with white space in front, and leaves
what is behind. -/
def Accepts (read : Text → Reading α) (Form : Text → α → Prop) : Prop :=
  ∀ t x rest, read t = .ok (x, rest)
    ↔ ∃ gap form, Gap gap ∧ Form form x ∧ t = gap ++ (form ++ rest)

/-- What stands behind the name of a member is taken, the colon with white
space on both sides and then one of these forms, and bound if it may
be. -/
def Binds {σ : Type} (member : σ → Text → Text → Reading σ)
    (name : α → Text) (Form : Text → α → Prop) (bind : σ → α → Option σ) :
    Prop :=
  ∀ state key t state' rest, member state key t = .ok (state', rest)
    ↔ ∃ x before after form, name x = key ∧ Gap before ∧ Gap after
        ∧ Form form x ∧ bind state x = some state'
        ∧ t = before ++ ':' :: (after ++ (form ++ rest))

end Reader

end Containers

-- ========================================================== white space

theorem gap_nil : Gap [] := List.forall_mem_nil _

theorem gap_cons_iff {c : Char} {t : Text} :
    Gap (c :: t) ↔ Reader.isGap c = true ∧ Gap t := by
  rw [Gap, List.forall_mem_cons]
  refine and_congr_left fun _ => ?_
  simp [Reader.isGap, or_assoc]

/-- No white space has to be there. -/
theorem Spaced.tight {α : Type} {Form : Text → α → Prop} {t : Text} {x : α}
    (h : Form t x) : Spaced Form t x :=
  ⟨[], t, [], gap_nil, h, gap_nil, (List.append_nil t).symm⟩

theorem Gap.append {t u : Text} (ht : Gap t) (hu : Gap u) : Gap (t ++ u) :=
  List.forall_mem_append.2 ⟨ht, hu⟩

/-- Four digits make a number of 16 bits. -/
theorem HexUnit.lt {digits : Text} {n : Nat} (h : HexUnit digits n) :
    n < 0x10000 := by
  cases h with
  | intro hi hj hk hl =>
    have hi := hi.1
    have hj := hj.1
    have hk := hk.1
    have hl := hl.1
    omega

namespace Reader

/-- White space in front is passed over. -/
theorem skipGap_append {gap : Text} (h : Gap gap) (t : Text) :
    skipGap (gap ++ t) = skipGap t := by
  induction gap with
  | nil => rfl
  | cons c gap ih =>
    obtain ⟨hc, hgap⟩ := gap_cons_iff.1 h
    rw [List.cons_append, skipGap, List.dropWhile_cons_of_pos hc]
    exact ih hgap

/-- What is passed over is white space, and what is left starts with
something else. -/
theorem exists_gap (t : Text) :
    ∃ gap, Gap gap ∧ t = gap ++ skipGap t
      ∧ ∀ c rest, skipGap t = c :: rest → isGap c = false := by
  induction t with
  | nil => exact ⟨[], gap_nil, rfl, nofun⟩
  | cons c t ih =>
    by_cases hc : isGap c = true
    · obtain ⟨gap, hgap, ht, hstop⟩ := ih
      have hskip : skipGap (c :: t) = skipGap t :=
        List.dropWhile_cons_of_pos hc
      rw [hskip]
      exact ⟨c :: gap, gap_cons_iff.2 ⟨hc, hgap⟩,
        congrArg (c :: ·) ht, hstop⟩
    · rw [Bool.not_eq_true] at hc
      refine ⟨[], gap_nil, (skipGap_cons t hc).symm, fun d rest h => ?_⟩
      rw [skipGap_cons t hc] at h
      cases h
      exact hc

/-- White space is all that a text of which nothing is left can be. -/
theorem skipGap_eq_nil_iff {t : Text} : skipGap t = [] ↔ Gap t := by
  constructor
  · intro h
    obtain ⟨gap, hgap, ht, -⟩ := exists_gap t
    rw [h, List.append_nil] at ht
    rwa [ht]
  · intro h
    have hskip := skipGap_append h []
    rwa [List.append_nil] at hskip

/-- Something that is no white space is what is left of a text just when
white space stands before it. -/
theorem skipGap_eq_cons_iff {t rest : Text} {c : Char}
    (hc : isGap c = false) :
    skipGap t = c :: rest ↔ ∃ gap, Gap gap ∧ t = gap ++ c :: rest := by
  constructor
  · intro h
    obtain ⟨gap, hgap, ht, -⟩ := exists_gap t
    rw [h] at ht
    exact ⟨gap, hgap, ht⟩
  · rintro ⟨gap, hgap, rfl⟩
    rw [skipGap_append hgap, skipGap_cons rest hc]

/-- A word is taken if it stands in front. -/
theorem word_eq_ok_iff {w t rest : Text} :
    word w t = .ok rest ↔ t = w ++ rest := by
  induction w generalizing t with
  | nil =>
    rw [word]
    exact ⟨fun h => by cases h; rfl, fun h => congrArg _ h⟩
  | cons c w ih =>
    cases t with
    | nil => exact ⟨nofun, nofun⟩
    | cons d t =>
      rw [word]
      by_cases hd : d = c
      · rw [if_pos hd, ih, hd, List.cons_append, List.cons.injEq]
        exact (and_iff_right rfl).symm
      · rw [if_neg hd]
        refine ⟨nofun, fun h => ?_⟩
        cases h
        exact absurd rfl hd

/-- Behind a word comes what is read for it. -/
theorem map_word_eq_ok_iff {α : Type} {w t rest : Text} {x y : α} :
    (word w t).map (x, ·) = .ok (y, rest) ↔ y = x ∧ t = w ++ rest := by
  rw [← word_eq_ok_iff]
  cases word w t with
  | error e => exact ⟨nofun, nofun⟩
  | ok behind =>
    constructor
    · intro h
      cases h
      exact ⟨rfl, rfl⟩
    · rintro ⟨rfl, h⟩
      cases h
      rfl

-- =============================================================== strings

theorem hexDigit?_eq_some_iff {c : Char} {n : Nat} :
    hexDigit? c = some n ↔ HexDigit c n := by
  have hten : ∀ n < 10, (Nat.digitChar n).toNat = n + 48 := by decide
  have hsmall : ∀ n < 16, 10 ≤ n → (Nat.digitChar n).toNat = n + 87 := by
    decide
  have hlarge : ∀ n < 16, 10 ≤ n → (Nat.digitChar n).toUpper.toNat = n + 55
      := by
    decide
  have hread : ∀ n < 16, hexDigit? (Nat.digitChar n) = some n
      ∧ hexDigit? (Nat.digitChar n).toUpper = some n := by
    decide
  constructor
  · intro h
    unfold hexDigit? at h
    split at h
    · next hc =>
      have hlow : 48 ≤ c.toNat := hc.1
      have hhigh : c.toNat ≤ 57 := hc.2
      obtain rfl : c.toNat - 48 = n := Option.some.inj h
      refine ⟨by omega, .inl (Char.toNat_inj.1 ?_)⟩
      rw [hten _ (by omega)]
      omega
    · split at h
      · next hc =>
        have hlow : 97 ≤ c.toNat := hc.1
        have hhigh : c.toNat ≤ 102 := hc.2
        obtain rfl : c.toNat - 97 + 10 = n := Option.some.inj h
        refine ⟨by omega, .inl (Char.toNat_inj.1 ?_)⟩
        rw [hsmall _ (by omega) (by omega)]
        omega
      · split at h
        · next hc =>
          have hlow : 65 ≤ c.toNat := hc.1
          have hhigh : c.toNat ≤ 70 := hc.2
          obtain rfl : c.toNat - 65 + 10 = n := Option.some.inj h
          refine ⟨by omega, .inr (Char.toNat_inj.1 ?_)⟩
          rw [hlarge _ (by omega) (by omega)]
          omega
        · cases h
  · rintro ⟨hn, rfl | rfl⟩
    · exact (hread n hn).1
    · exact (hread n hn).2

theorem hexValue?_eq_some_iff {a b c d : Char} {n : Nat} :
    hexValue? a b c d = some n ↔ HexUnit [a, b, c, d] n := by
  simp only [hexValue?, Option.bind_eq_bind, Option.bind_eq_some_iff,
    hexDigit?_eq_some_iff]
  constructor
  · rintro ⟨i, hi, j, hj, k, hk, l, hl, hn⟩
    cases hn
    exact .intro hi hj hk hl
  · intro h
    cases h with
    | intro hi hj hk hl => exact ⟨_, hi, _, hj, _, hk, _, hl, rfl⟩

theorem hexUnit_eq_ok_iff {t rest : Text} {n : Nat} :
    hexUnit t = .ok (n, rest)
      ↔ ∃ digits, HexUnit digits n ∧ t = digits ++ rest := by
  constructor
  · intro h
    unfold hexUnit at h
    split at h
    · cases h
    · split at h
      · next a b c d rest' _ =>
        cases hvalue : hexValue? a b c d with
        | none =>
          rw [hvalue] at h
          cases h
        | some m =>
          rw [hvalue] at h
          cases h
          exact ⟨_, hexValue?_eq_some_iff.1 hvalue, rfl⟩
      · cases h
  · rintro ⟨digits, hdigits, rfl⟩
    cases hdigits with
    | intro hi hj hk hl =>
      exact hexUnit_of_value rest
        (hexValue?_eq_some_iff.2 (.intro hi hj hk hl))

/-- No character is a surrogate. -/
theorem not_surrogate (c : Char) :
    isTrailing c.toNat = false ∧ isLeading c.toNat = false := by
  have hvalid : c.toNat < 0xD800 ∨ 0xDFFF < c.toNat ∧ c.toNat < 0x110000 :=
    c.valid
  simp only [isTrailing, isLeading, Bool.and_eq_false_iff,
    decide_eq_false_iff_not]
  omega

theorem toNat_ofNat {n : Nat}
    (h : n < 0xD800 ∨ 0xDFFF < n ∧ n < 0x110000) :
    (Char.ofNat n).toNat = n := by
  have hvalid : n.isValidChar := h
  rw [Char.ofNat, dif_pos hvalid]
  rfl

/-- Behind a first surrogate, the second one has to follow in an escape of
its own. -/
theorem trailingEscape_eq_ok_iff {t rest : Text} {leading : Nat} {c : Char} :
    trailingEscape leading t = .ok (c, rest)
      ↔ ∃ digits trailing, HexUnit digits trailing
          ∧ (0xDC00 ≤ trailing ∧ trailing < 0xE000)
          ∧ c = surrogatePair leading trailing
          ∧ t = '\\' :: 'u' :: (digits ++ rest) := by
  constructor
  · intro h
    unfold trailingEscape at h
    split at h <;> try cases h
    next t =>
    cases hunit : hexUnit t with
    | error fault =>
      rw [hunit] at h
      cases h
    | ok taken =>
      obtain ⟨unit, behind⟩ := taken
      obtain ⟨digits, hdigits, rfl⟩ := hexUnit_eq_ok_iff.1 hunit
      simp only [hunit] at h
      split at h
      · next htrailing =>
        simp only [Except.ok.injEq, Prod.mk.injEq] at h
        obtain ⟨hc, rfl⟩ := h
        simp only [isTrailing, Bool.and_eq_true, decide_eq_true_eq]
          at htrailing
        exact ⟨digits, unit, hdigits, by omega, hc.symm, rfl⟩
      · cases h
  · rintro ⟨digits, trailing, hdigits, htrailing, hc, rfl⟩
    have hsurrogate : isTrailing trailing = true := by
      simp only [isTrailing, Bool.and_eq_true, decide_eq_true_eq]
      omega
    rw [trailingEscape, hexUnit_eq_ok_iff.2 ⟨digits, hdigits, rfl⟩]
    simp only [hsurrogate, if_true, hc]

/-- Two surrogates in order stand for one character. -/
theorem eq_surrogatePair_iff {leading trailing : Nat} {c : Char}
    (hleading : 0xD800 ≤ leading ∧ leading < 0xDC00)
    (htrailing : 0xDC00 ≤ trailing ∧ trailing < 0xE000) :
    c = surrogatePair leading trailing
      ↔ c.toNat
        = 0x10000 + (leading - 0xD800) * 0x400 + (trailing - 0xDC00) := by
  have hpoint : (surrogatePair leading trailing).toNat
      = 0x10000 + (leading - 0xD800) * 0x400 + (trailing - 0xDC00) :=
    toNat_ofNat (by omega)
  rw [← Char.toNat_inj, hpoint]

theorem escape_eq_ok_iff {t rest : Text} {c : Char} :
    escape t = .ok (c, rest) ↔ ∃ e, Escape e c ∧ t = e ++ rest := by
  constructor
  · intro h
    unfold escape at h
    split at h
    case h_1 => cases h
    case h_10 t =>
      cases hunit : hexUnit t with
      | error fault =>
        rw [hunit] at h
        cases h
      | ok taken =>
        obtain ⟨unit, behind⟩ := taken
        obtain ⟨digits, hdigits, rfl⟩ := hexUnit_eq_ok_iff.1 hunit
        have hlt := hdigits.lt
        simp only [hunit] at h
        split at h
        · cases h
        · next htrailing =>
          split at h
          · next hleading =>
            obtain ⟨digits', trailing, hdigits', htrailing', hc, rfl⟩ :=
              trailingEscape_eq_ok_iff.1 h
            simp only [isLeading, Bool.and_eq_true, decide_eq_true_eq]
              at hleading
            have hleading' : 0xD800 ≤ unit ∧ unit < 0xDC00 := by omega
            refine ⟨'u' :: (digits ++ '\\' :: 'u' :: digits'),
              .pair hdigits hdigits' hleading' htrailing'
                ((eq_surrogatePair_iff hleading' htrailing').1 hc), ?_⟩
            rw [List.cons_append, List.append_assoc]
            rfl
          · next hleading =>
            cases h
            refine ⟨'u' :: digits, .unit ?_, rfl⟩
            rw [toNat_ofNat]
            · exact hdigits
            · simp only [isTrailing, isLeading, Bool.and_eq_true,
                decide_eq_true_eq] at htrailing hleading
              omega
    case h_11 => cases h
    all_goals
      -- the escapes of one letter
      cases h
      exact ⟨[_], .letter (by decide), rfl⟩
  · rintro ⟨e, he, rfl⟩
    cases he with
    | letter hletter =>
      simp only [shorthands, List.mem_cons, List.not_mem_nil, Prod.mk.injEq,
        or_false] at hletter
      rcases hletter with ⟨rfl, rfl⟩ | ⟨rfl, rfl⟩ | ⟨rfl, rfl⟩ | ⟨rfl, rfl⟩
        | ⟨rfl, rfl⟩ | ⟨rfl, rfl⟩ | ⟨rfl, rfl⟩ | ⟨rfl, rfl⟩ <;> rfl
    | unit hdigits =>
      obtain ⟨htrailing, hleading⟩ := not_surrogate c
      rw [List.cons_append, escape,
        hexUnit_eq_ok_iff.2 ⟨_, hdigits, rfl⟩]
      simp only [htrailing, hleading, Bool.false_eq_true, if_false,
        Char.ofNat_toNat]
    | @pair digits digits' leading trailing _ hdigits hdigits' hleading
        htrailing hc =>
      have hfirst : isLeading leading = true := by
        simp only [isLeading, Bool.and_eq_true, decide_eq_true_eq]
        omega
      have hnot : isTrailing leading = false := by
        simp only [isTrailing, Bool.and_eq_false_iff, decide_eq_false_iff_not]
        omega
      rw [List.cons_append, List.append_assoc, escape,
        hexUnit_eq_ok_iff.2 ⟨_, hdigits, rfl⟩]
      simp only [hfirst, hnot, Bool.false_eq_true, if_false, if_true]
      exact trailingEscape_eq_ok_iff.2 ⟨_, _, hdigits', htrailing,
        (eq_surrogatePair_iff hleading htrailing).2 hc, rfl⟩

/-- What stands between quotes is read up to the closing one. -/
theorem string_eq_ok_iff {t s rest : Text} :
    string t = .ok (s, rest) ↔ ∃ body, Body body s ∧ t = body ++ '"' :: rest
    := by
  constructor
  · intro h
    fun_induction string t generalizing s rest with
    | case1 => cases h
    | case2 t =>
      cases h
      exact ⟨[], .nil, rfl⟩
    | case3 t e he => cases h
    | case4 t c behind he e hs ih => cases h
    | case5 t c behind he s' rest' hs ih =>
      cases h
      obtain ⟨e, hescape, rfl⟩ := escape_eq_ok_iff.1 he
      obtain ⟨body, hbody, rfl⟩ := ih hs
      refine ⟨'\\' :: (e ++ body), .escape hescape hbody, ?_⟩
      rw [List.cons_append, List.append_assoc]
    | case6 c t => cases h
    | case7 c t _ _ _ e hs ih => cases h
    | case8 c t hquote hslash hplain s' rest' hs ih =>
      cases h
      obtain ⟨body, hbody, rfl⟩ := ih hs
      exact ⟨c :: body,
        .plain (Char.not_lt.1 hplain) hquote hslash hbody, rfl⟩
  · rintro ⟨body, hbody, rfl⟩
    induction hbody with
    | nil =>
      show string ('"' :: rest) = _
      rw [string]
    | @plain c t s hplain hquote hslash _ ih =>
      rw [List.cons_append, string.eq_4 c _ hquote hslash,
        if_neg (Char.not_lt.2 hplain), ih]
    | escape hescape _ ih =>
      rw [List.cons_append, List.append_assoc]
      exact string_escape (escape_eq_ok_iff.2 ⟨_, hescape, rfl⟩) ih

theorem Quoted.starts {t s : Text} (h : Quoted t s) : Starts t := by
  cases h with
  | intro hbody => exact ⟨'"', _, rfl, rfl, by decide⟩

/-- Characters that need no escape stand for themselves. -/
theorem body_self (s : Text)
    (h : s.all (fun c => ' ' ≤ c ∧ c ≠ '"' ∧ c ≠ '\\') = true) :
    Body s s := by
  induction s with
  | nil => exact .nil
  | cons c s ih =>
    rw [List.all_cons, Bool.and_eq_true, decide_eq_true_eq] at h
    obtain ⟨⟨hplain, hquote, hslash⟩, hrest⟩ := h
    exact .plain hplain hquote hslash (ih hrest)

/-- Behind an opening quote, a string is read as what it stands for. -/
theorem string_eq_ok_iff_quoted {t s rest : Text} :
    string t = .ok (s, rest) ↔ ∃ q, Quoted q s ∧ '"' :: t = q ++ rest := by
  rw [string_eq_ok_iff]
  constructor
  · rintro ⟨body, hbody, rfl⟩
    exact ⟨_, .intro hbody, by simp⟩
  · rintro ⟨q, hq, ht⟩
    cases hq with
    | @intro body _ hbody =>
      refine ⟨body, hbody, ?_⟩
      simpa using ht

-- ============================================================ containers

theorem skipGap_skipGap (t : Text) : skipGap (skipGap t) = skipGap t := by
  obtain ⟨-, -, -, hstop⟩ := exists_gap t
  cases hskip : skipGap t with
  | nil => rfl
  | cons c rest => exact skipGap_cons rest (hstop c rest hskip)

/-- For a reader that passes over white space first, it is enough to know
what it takes of a text that has none in front. -/
theorem accepts_of_skips {α : Type} {read : Text → Reading α}
    {Form : Text → α → Prop} (hskips : ∀ t, read (skipGap t) = read t)
    (hstarts : ∀ form x, Form form x → Starts form)
    (hread : ∀ t x rest, skipGap t = t → (read t = .ok (x, rest)
      ↔ ∃ form, Form form x ∧ t = form ++ rest)) :
    Accepts read Form := by
  intro t x rest
  obtain ⟨gap, hgap, ht, -⟩ := exists_gap t
  rw [← hskips, hread _ x rest (skipGap_skipGap t)]
  constructor
  · rintro ⟨form, hform, hskip⟩
    exact ⟨gap, form, hgap, hform, hskip ▸ ht⟩
  · rintro ⟨gap, form, hgap, hform, rfl⟩
    refine ⟨form, hform, ?_⟩
    rw [skipGap_append hgap, ((hstarts form x hform).append rest).skipGap_eq]

section Brackets

variable {α : Type} {t rest start : Text} (first : Bool)

theorem nextItem_append {gap : Text} (h : Gap gap) (t : Text) :
    nextItem first (gap ++ t) = nextItem first t := by
  rw [nextItem, nextItem, skipGap_append h]

/-- A list is over where its bracket comes. -/
theorem nextItem_eq_false_iff :
    nextItem first t = .ok (false, rest)
      ↔ ∃ gap, Gap gap ∧ t = gap ++ ']' :: rest := by
  constructor
  · intro h
    refine (skipGap_eq_cons_iff (by decide)).1 ?_
    unfold nextItem at h
    split at h
    · cases h
    · next hskip =>
      cases h
      exact hskip
    · split at h
      · cases h
      · split at h
        · split at h <;> cases h
        · cases h
  · rintro ⟨gap, hgap, rfl⟩
    rw [nextItem_append first hgap]
    rfl

/-- Another item comes where there is a comma, or nothing for the first
one, and behind that something other than the bracket. -/
theorem nextItem_eq_true_iff :
    nextItem first t = .ok (true, start)
      ↔ ∃ gap gap', Gap gap ∧ Gap gap' ∧ Starts start
          ∧ t = gap ++ (comma first ++ (gap' ++ start)) := by
  constructor
  · intro h
    obtain ⟨gap, hgap, ht, hstop⟩ := exists_gap t
    unfold nextItem at h
    split at h
    · cases h
    · cases h
    · next c behind hclose hskip =>
      rw [hskip] at ht hstop
      have hc : c ≠ ']' := hclose
      split at h
      · next hfirst =>
        cases h
        refine ⟨gap, [], hgap, gap_nil, ⟨c, behind, rfl, hstop c _ rfl, hc⟩,
          ?_⟩
        rw [hfirst]
        exact ht
      · next hfirst =>
        split at h
        · next hcomma =>
          obtain ⟨gap', hgap', hbehind, hstop'⟩ := exists_gap behind
          split at h
          · cases h
          · cases h
          · next hnil hclose' =>
            cases h
            obtain ⟨d, u, hstart⟩ := List.exists_cons_of_ne_nil hnil
            refine ⟨gap, gap', hgap, hgap', ⟨d, u, hstart,
              hstop' d u hstart, fun hd => hclose' u (by rw [hstart, hd])⟩,
              ?_⟩
            rw [Bool.not_eq_true] at hfirst
            rw [ht, hcomma, hfirst, ← hbehind]
            rfl
        · cases h
  · rintro ⟨gap, gap', hgap, hgap', hstart, rfl⟩
    rw [nextItem_append first hgap]
    exact nextItem_of_skipGap first hstart
      ((skipGap_append hgap' start).trans hstart.skipGap_eq)

section Items

variable {item : Text → Reading α} {Form : Text → α → Prop}
  (hitem : Accepts item Form)
  (hstarts : ∀ form x, Form form x → Starts form)
include hitem hstarts

/-- One item is taken with the white space that stands before its comma
and before itself. -/
theorem nextItem_item_iff {x : α} :
    (∃ start, nextItem first t = .ok (true, start)
        ∧ item start = .ok (x, rest))
      ↔ ∃ gap before form, Gap gap ∧ Gap before ∧ Form form x
          ∧ t = gap ++ (comma first ++ (before ++ (form ++ rest))) := by
  constructor
  · rintro ⟨start, hnext, hx⟩
    obtain ⟨gap, gap', hgap, hgap', -, rfl⟩ :=
      (nextItem_eq_true_iff first).1 hnext
    obtain ⟨gap'', form, hgap'', hform, rfl⟩ := (hitem ..).1 hx
    refine ⟨gap, gap' ++ gap'', form, hgap, hgap'.append hgap'', hform, ?_⟩
    simp only [List.append_assoc]
  · rintro ⟨gap, before, form, hgap, hbefore, hform, rfl⟩
    exact ⟨form ++ rest, (nextItem_eq_true_iff first).2
      ⟨gap, before, hgap, hbefore, (hstarts form x hform).append rest, rfl⟩,
      (hitem ..).2 ⟨[], form, gap_nil, hform, rfl⟩⟩

/-- A list is read to its bracket, if its items are taken one by one. -/
theorem items_eq_ok_iff {xs : List α} :
    items item first t = .ok (xs, rest)
      ↔ ∃ gap parts, Gap gap ∧ List.Forall₂ (Spaced Form) parts xs
          ∧ t = gap ++ (separated first parts ++ ']' :: rest) := by
  constructor
  · intro h
    -- along the reader: what it leaves behind an item is the rest of the
    -- list, with the white space before the comma still in front
    fun_induction items item first t generalizing xs rest with
    | case1 first t e he => cases h
    | case2 first t behind hnext =>
      cases h
      obtain ⟨gap, hgap, ht⟩ := (nextItem_eq_false_iff first).1 hnext
      exact ⟨gap, [], hgap, .nil, by rw [separated_nil]; exact ht⟩
    | case3 first t start hnext e he => cases h
    | case4 first t start hnext x behind hx hlt e he ih => cases h
    | case5 first t start hnext x behind hx hlt xs' rest' hxs ih =>
      cases h
      obtain ⟨gap, before, form, hgap, hbefore, hform, ht⟩ :=
        (nextItem_item_iff first hitem hstarts).1 ⟨start, hnext, hx⟩
      obtain ⟨after, parts, hafter, hparts, hbehind⟩ := ih hxs
      refine ⟨gap, (before ++ form ++ after) :: parts, hgap,
        .cons ⟨before, form, after, hbefore, hform, hafter, rfl⟩ hparts, ?_⟩
      rw [ht, hbehind, separated_cons]
      simp only [List.append_assoc]
    | case6 first t start hnext x behind hx hlt => cases h
  · rintro ⟨gap, parts, hgap, hparts, rfl⟩
    induction hparts generalizing first gap with
    | nil =>
      rw [separated_nil, List.nil_append, items,
        (nextItem_eq_false_iff first).2 ⟨gap, hgap, rfl⟩]
    | @cons part x parts xs hpart _ ih =>
      obtain ⟨before, form, after, hbefore, hform, hafter, rfl⟩ := hpart
      rw [separated_cons, List.append_assoc, List.append_assoc,
        List.append_assoc, List.append_assoc]
      obtain ⟨start, hnext, hx⟩ :=
        (nextItem_item_iff first hitem hstarts).2
          ⟨gap, before, form, hgap, hbefore, hform, rfl⟩
      have hlong := (hstarts form x hform).length_pos
      refine items_of_next first hnext hx ?_ (ih false after hafter)
      simp only [List.length_append, List.length_cons]
      omega

end Items

/-- A list between its brackets is taken, behind the opening one. -/
theorem listed_iff {opening closing : Char} {Form : Text → α → Prop}
    {xs : List α} :
    (∃ form, Listed opening closing Form form xs
        ∧ opening :: t = form ++ rest)
      ↔ ∃ gap parts, Gap gap ∧ List.Forall₂ (Spaced Form) parts xs
          ∧ t = gap ++ (separated true parts ++ closing :: rest) := by
  constructor
  · rintro ⟨form, ⟨gap, parts, hgap, hparts, rfl⟩, ht⟩
    refine ⟨gap, parts, hgap, hparts, ?_⟩
    simpa [separated] using ht
  · rintro ⟨gap, parts, hgap, hparts, rfl⟩
    exact ⟨_, ⟨gap, parts, hgap, hparts, rfl⟩, by simp [separated]⟩

end Brackets

section Braces

variable {α σ : Type} {t rest start : Text} (first : Bool)

theorem nextMember_append {gap : Text} (h : Gap gap) (t : Text) :
    nextMember first (gap ++ t) = nextMember first t := by
  rw [nextMember, nextMember, skipGap_append h]

theorem key_eq_ok_iff {name : Option Text} :
    nextMember.key t = .ok (name, rest)
      ↔ ∃ key, name = some key ∧ string t = .ok (key, rest) := by
  unfold nextMember.key
  cases hstring : string t with
  | error e => exact ⟨nofun, nofun⟩
  | ok taken =>
    obtain ⟨key, behind⟩ := taken
    constructor
    · intro h
      cases h
      exact ⟨key, rfl, rfl⟩
    · rintro ⟨key, rfl, h⟩
      cases h
      rfl

/-- An object is over where its brace comes. -/
theorem nextMember_eq_none_iff :
    nextMember first t = .ok (none, rest)
      ↔ ∃ gap, Gap gap ∧ t = gap ++ '}' :: rest := by
  have hkey : ∀ t, nextMember.key t ≠ .ok (none, rest) := by
    intro t h
    obtain ⟨key, hnone, -⟩ := key_eq_ok_iff.1 h
    cases hnone
  constructor
  · intro h
    refine (skipGap_eq_cons_iff (by decide)).1 ?_
    unfold nextMember at h
    split at h
    · cases h
    · next hskip =>
      cases h
      exact hskip
    · split at h
      · split at h
        · exact absurd h (hkey _)
        · cases h
      · split at h
        · split at h
          · cases h
          · exact absurd h (hkey _)
          · cases h
          · cases h
        · cases h
  · rintro ⟨gap, hgap, rfl⟩
    rw [nextMember_append first hgap]
    rfl

/-- Another member comes where there is a comma, or nothing for the first
one, and behind that its name. -/
theorem nextMember_eq_some_iff {name : Text} :
    nextMember first t = .ok (some name, start)
      ↔ ∃ gap gap' key, Gap gap ∧ Gap gap' ∧ Quoted key name
          ∧ t = gap ++ (comma first ++ (gap' ++ (key ++ start))) := by
  have hkey : ∀ {t}, nextMember.key t = .ok (some name, start) →
      ∃ key, Quoted key name ∧ '"' :: t = key ++ start := by
    intro t h
    obtain ⟨name', hname, hstring⟩ := key_eq_ok_iff.1 h
    cases hname
    exact string_eq_ok_iff_quoted.1 hstring
  constructor
  · intro h
    obtain ⟨gap, hgap, ht, -⟩ := exists_gap t
    unfold nextMember at h
    split at h
    · cases h
    · cases h
    · next c behind _ hskip =>
      rw [hskip] at ht
      split at h
      · next hfirst =>
        split at h
        · next hc =>
          obtain ⟨key, hquoted, hbehind⟩ := hkey h
          refine ⟨gap, [], key, hgap, gap_nil, hquoted, ?_⟩
          rw [ht, hc, hbehind, hfirst]
          rfl
        · cases h
      · next hfirst =>
        rw [Bool.not_eq_true] at hfirst
        split at h
        · next hc =>
          obtain ⟨gap', hgap', hbehind, -⟩ := exists_gap behind
          split at h
          · cases h
          · next behind' hskip' =>
            obtain ⟨key, hquoted, hbehind'⟩ := hkey h
            refine ⟨gap, gap', key, hgap, hgap', hquoted, ?_⟩
            rw [ht, hc, hbehind, hskip', hbehind', hfirst]
            rfl
          · cases h
          · cases h
        · cases h
  · rintro ⟨gap, gap', key, hgap, hgap', hquoted, rfl⟩
    rw [nextMember_append first hgap]
    cases hquoted with
    | @intro body _ hbody =>
      have hstring : string (body ++ ['"'] ++ start) = .ok (name, start) :=
        string_eq_ok_iff.2 ⟨body, hbody, by simp⟩
      have hskip := skipGap_append hgap' ('"' :: (body ++ ['"'] ++ start))
      exact (nextMember_of_skipGap first hskip).trans
        (key_eq_ok_iff.2 ⟨name, rfl, hstring⟩)

theorem colon_eq_ok_iff :
    colon t = .ok rest ↔ ∃ gap, Gap gap ∧ t = gap ++ ':' :: rest := by
  rw [← skipGap_eq_cons_iff (by decide)]
  unfold colon
  constructor
  · intro h
    split at h
    · cases h
    · next hskip =>
      cases h
      exact hskip
    · cases h
  · intro h
    rw [h]
    rfl

/-- A value is bound to the name that it stands behind. -/
theorem entry_binds {value : Text → Reading α} {Form : Text → α → Prop}
    (bind : σ → Text → α → σ) (hvalue : Accepts value Form) :
    Binds (entry bind value) Prod.fst (fun form e => Form form e.2)
      (fun state e => pure (bind state e.1 e.2)) := by
  intro state key t state' rest
  constructor
  · intro h
    unfold entry at h
    split at h
    · cases h
    · next behind hcolon =>
      obtain ⟨before, hbefore, rfl⟩ := colon_eq_ok_iff.1 hcolon
      split at h
      · cases h
      · next x rest' hx =>
        cases h
        obtain ⟨after, form, hafter, hform, rfl⟩ := (hvalue ..).1 hx
        exact ⟨(key, x), before, after, form, rfl, hbefore, hafter, hform,
          rfl, rfl⟩
  · rintro ⟨⟨name, x⟩, before, after, form, rfl, hbefore, hafter, hform,
      hbind, rfl⟩
    cases hbind
    have hx := (hvalue (after ++ (form ++ rest)) x rest).2
      ⟨after, form, hafter, hform, rfl⟩
    rw [entry, colon_eq_ok_iff.2 ⟨before, hbefore, rfl⟩]
    simp only [hx]

/-- An object is read to its brace, if its members are bound one after the
other. -/
theorem members_eq_ok_iff {member : σ → Text → Text → Reading σ}
    {name : α → Text} {Form : Text → α → Prop} {bind : σ → α → Option σ}
    (hmember : Binds member name Form bind) {state state' : σ} :
    members member first state t = .ok (state', rest)
      ↔ ∃ gap parts xs, Gap gap
          ∧ List.Forall₂ (Spaced (Member name Form)) parts xs
          ∧ xs.foldlM bind state = some state'
          ∧ t = gap ++ (separated first parts ++ '}' :: rest) := by
  constructor
  · intro h
    fun_induction members member first state t generalizing state' rest with
    | case1 first state t e he => cases h
    | case2 first state t behind hnext =>
      cases h
      obtain ⟨gap, hgap, ht⟩ := (nextMember_eq_none_iff first).1 hnext
      exact ⟨gap, [], [], hgap, .nil, rfl, by rw [separated_nil]; exact ht⟩
    | case3 first state t key start hnext e he => cases h
    | case4 first state t key start hnext state₁ behind hx hlt ih =>
      obtain ⟨gap, gap', quotedKey, hgap, hgap', hkey, ht⟩ :=
        (nextMember_eq_some_iff first).1 hnext
      obtain ⟨x, before, after, form, rfl, hbefore, hafter, hform, hbind,
        hstart⟩ := (hmember ..).1 hx
      obtain ⟨gap'', parts, xs, hgap'', hparts, hfold, hbehind⟩ := ih h
      refine ⟨gap, (gap'
          ++ (quotedKey ++ (before ++ ':' :: (after ++ form))) ++ gap'')
          :: parts, x :: xs, hgap,
        .cons ⟨gap', _, gap'', hgap', ⟨quotedKey, before, after, form, hkey,
          hbefore, hafter, hform, rfl⟩, hgap'', rfl⟩ hparts, ?_, ?_⟩
      · rw [List.foldlM_cons, hbind]
        exact hfold
      · rw [ht, hstart, hbehind, separated_cons]
        simp only [List.append_assoc, List.cons_append]
    | case5 first state t key start hnext state₁ behind hx hlt => cases h
  · rintro ⟨gap, parts, xs, hgap, hparts, hfold, rfl⟩
    -- along the parts; the state is another one behind each member
    induction hparts generalizing first gap state with
    | nil =>
      cases hfold
      rw [separated_nil, List.nil_append, members,
        (nextMember_eq_none_iff first).2 ⟨gap, hgap, rfl⟩]
    | @cons part x parts xs hpart _ ih =>
      obtain ⟨gap', _, gap'', hgap', ⟨key, before, after, form, hkey,
        hbefore, hafter, hform, rfl⟩, hgap'', rfl⟩ := hpart
      rw [List.foldlM_cons] at hfold
      obtain ⟨state₁, hbind, hfold⟩ := Option.bind_eq_some_iff.1 hfold
      have hx := (hmember state (name x) _ state₁
          (gap'' ++ (separated false parts ++ '}' :: rest))).2
        ⟨x, before, after, form, rfl, hbefore, hafter, hform, hbind, rfl⟩
      refine members_of_next first ((nextMember_eq_some_iff first).2
        ⟨gap, gap', key, hgap, hgap', hkey, ?_⟩) hx ?_
        (ih false gap'' hgap'' hfold)
      · rw [separated_cons]
        simp only [List.append_assoc, List.cons_append]
      · rw [separated_cons]
        simp only [List.length_append, List.length_cons]
        omega

end Braces

-- ============================================================= documents

/-- A whole text is read if it is one of the forms, with white space on
both sides. -/
theorem whole?_eq_ok_iff {α : Type} {read : Text → Reading α}
    {Form : Text → α → Prop} (hread : Accepts read Form) {t : Text}
    {x : α} : whole? read t = .ok x ↔ Spaced Form t x := by
  have hok : ∀ result : Except Fault α,
      report t result = .ok x ↔ result = .ok x := by
    rintro (e | y)
    · exact ⟨nofun, nofun⟩
    · exact ⟨fun h => by cases h; rfl, fun h => by cases h; rfl⟩
  rw [whole?, hok]
  constructor
  · intro h
    split at h
    · cases h
    · next y rest hy =>
      split at h
      · next hskip =>
        cases h
        obtain ⟨gap, form, hgap, hform, rfl⟩ := (hread ..).1 hy
        exact ⟨gap, form, rest, hgap, hform, skipGap_eq_nil_iff.1 hskip,
          (List.append_assoc ..).symm⟩
      · cases h
  · rintro ⟨gap, form, after, hgap, hform, hafter, rfl⟩
    rw [(hread _ x after).2 ⟨gap, form, hgap, hform, List.append_assoc ..⟩]
    simp only [skipGap_eq_nil_iff.2 hafter]

end Reader

end Stencil.Json
