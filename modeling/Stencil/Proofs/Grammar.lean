/-
The written form of a path, said without reading it.

`Written` is the grammar of paths as a relation between a text and the
steps that it stands for: an identifier, and behind it any number of `.`
with an identifier and of brackets with a whole number of 64 bits between
them and white space around that. Whoever writes chooses the white space
and the leading zeros, so a path has many written forms; a text is one of
at most one path.

# Why reading takes the right pieces

The reader takes the longest identifier, and what stands between brackets
it takes up to the first `]`. Both are what the grammar means because no
character that ends one of these pieces can be part of it: behind a name
comes `.`, `[` or nothing (`WrittenSteps.head`), and neither digits nor
white space hold a `]`.

Main statement: `parse_eq_ok_iff`.
-/
import Stencil.Path.Parser

namespace Stencil

open Text

namespace Path

-- ================================================ statement vocabulary

/-- A whole number in decimal digits, of which the first ones may be
zeros, and its value. -/
inductive Numeral : Text → Int → Prop where
  | plain {digits : Text} : digits ≠ [] → (∀ c ∈ digits, c.isDigit = true) →
      Numeral digits (Nat.ofDigitChars 10 digits 0)
  | minus {digits : Text} : digits ≠ [] → (∀ c ∈ digits, c.isDigit = true) →
      Numeral ('-' :: digits) (-Nat.ofDigitChars 10 digits 0)

/-- A number that an index can be: one from `-2 ^ 63` to `2 ^ 63 - 1`. -/
def IndexRange (i : Int) : Prop :=
  -0x8000000000000000 ≤ i ∧ i ≤ 0x7FFFFFFFFFFFFFFF

/-- The written form of the steps behind the first one. -/
inductive WrittenSteps : Text → Path → Prop where
  | nil : WrittenSteps [] []
  | field {name t : Text} {path : Path} : isIdentifier name = true →
      WrittenSteps t path →
      WrittenSteps ('.' :: (name ++ t)) (.field name :: path)
  | index {before numeral after t : Text} {i : Int} {path : Path} :
      Blank before → Numeral numeral i → Blank after → IndexRange i →
      WrittenSteps t path →
      WrittenSteps ('[' :: (before ++ numeral ++ after ++ ']' :: t))
        (.index i :: path)

/-- The written form of a path. -/
inductive Written : Text → Path → Prop where
  | intro {name t : Text} {path : Path} : isIdentifier name = true →
      WrittenSteps t path → Written (name ++ t) (.field name :: path)

-- ============================================================ characters

theorem isBlank_of_isDigit {c : Char} (h : c.isDigit = true) :
    isBlank c = false := by
  cases hblank : isBlank c with
  | false => rfl
  | true =>
    rw [eq_false_of_isBlank (p := Char.isDigit) (by decide) hblank] at h
    cases h

/-- A numeral is written with digits and a sign. -/
theorem Numeral.char {t : Text} {i : Int} (h : Numeral t i) :
    ∀ c ∈ t, c = '-' ∨ c.isDigit = true := by
  intro c hc
  cases h with
  | plain hne hdigits => exact .inr (hdigits c hc)
  | minus hne hdigits =>
    rcases List.mem_cons.1 hc with rfl | hc
    · exact .inl rfl
    · exact .inr (hdigits c hc)

theorem Numeral.no_blank {t : Text} {i : Int} (h : Numeral t i) :
    ∀ c ∈ t, isBlank c = false := by
  intro c hc
  rcases h.char c hc with rfl | hdigit
  · decide
  · exact isBlank_of_isDigit hdigit

/-- What is neither white space nor part of a numeral does not stand
between brackets. -/
theorem not_mem_inner {before numeral after : Text} {i : Int} {d : Char}
    (hbefore : Blank before) (hnumeral : Numeral numeral i)
    (hafter : Blank after) (hblank : isBlank d = false)
    (hdigit : d.isDigit = false) (hsign : d ≠ '-') :
    d ∉ before ++ numeral ++ after := by
  intro h
  rcases List.mem_append.1 h with h | h
  · rcases List.mem_append.1 h with h | h
    · exact hbefore.not_mem hblank h
    · rcases hnumeral.char d h with rfl | h
      · exact hsign rfl
      · rw [h] at hdigit
        cases hdigit
  · exact hafter.not_mem hblank h

/-- Behind a name comes no more of a name. -/
theorem WrittenSteps.head {t : Text} {path : Path}
    (h : WrittenSteps t path) :
    ∀ c, t.head? = some c → isIdentContinue c = false := by
  intro c hc
  cases h with
  | nil => cases hc
  | field hname hrest =>
    cases hc
    exact isIdentContinue_of_delimiter (by decide)
  | index hbefore hnumeral hafter hrange hrest =>
    cases hc
    exact isIdentContinue_of_delimiter (by decide)

end Path

-- ========================================================= reading steps

section MaximalMunch

variable {α : Type} {p : α → Bool} {taken rest : List α}

theorem takeWhile_append_stop (htaken : ∀ x ∈ taken, p x = true)
    (hrest : ∀ x, rest.head? = some x → p x = false) :
    (taken ++ rest).takeWhile p = taken := by
  rw [List.takeWhile_append_of_pos htaken]
  cases rest with
  | nil => simp
  | cons x rest => simp [hrest x rfl]

theorem dropWhile_append_stop (htaken : ∀ x ∈ taken, p x = true)
    (hrest : ∀ x, rest.head? = some x → p x = false) :
    (taken ++ rest).dropWhile p = rest := by
  rw [List.dropWhile_append_of_pos htaken]
  cases rest with
  | nil => rfl
  | cons x rest => simp [hrest x rfl]

end MaximalMunch

namespace Cursor

/-- A name is read to its end. -/
theorem identifier_of_append {c : Cursor} {name rest : Text}
    (hc : c.rest = name ++ rest) (hname : isIdentifier name = true)
    (hrest : ∀ d, rest.head? = some d → isIdentContinue d = false) :
    c.identifier = (.ok name, c.past name rest) := by
  cases name with
  | nil => cases hname
  | cons x name =>
    simp only [isIdentifier, Bool.and_eq_true, List.all_eq_true] at hname
    rw [identifier, hc, List.cons_append]
    simp only [if_pos hname.1, takeWhile_append_stop hname.2 hrest,
      dropWhile_append_stop hname.2 hrest]

/-- What is read as a name is one, and it was in front. -/
theorem of_identifier_eq_ok {c after : Cursor} {name : Text}
    (h : c.identifier = (.ok name, after)) :
    isIdentifier name = true ∧ c.rest = name ++ after.rest := by
  rw [identifier] at h
  split at h
  · cases h
  · next x t hrest =>
    split at h
    · next hstart =>
      cases h
      refine ⟨?_, ?_⟩
      · simp only [isIdentifier, hstart, List.all_takeWhile, Bool.and_self]
      · rw [hrest, past, List.cons_append, List.takeWhile_append_dropWhile]
    · cases h

/-- What comes before a character is taken up to its first occurrence. -/
theorem upTo_of_append {stop : Char} {c : Cursor} {taken rest : Text}
    (hc : c.rest = taken ++ stop :: rest) (htaken : stop ∉ taken) :
    c.upTo stop = (.ok taken, c.past taken (stop :: rest)) := by
  have hpasses : ∀ d ∈ taken, (decide (d ≠ stop)) = true := by
    intro d hd
    have : d ≠ stop := fun h => htaken (h ▸ hd)
    simpa using this
  have hstops : ∀ d, (stop :: rest).head? = some d →
      (decide (d ≠ stop)) = false := by
    intro d hd
    cases hd
    simp
  rw [upTo, hc, takeWhile_append_stop hpasses hstops,
    dropWhile_append_stop hpasses hstops]
  rfl

/-- What is taken up to a character is followed by it. -/
theorem of_upTo_eq_ok {stop : Char} {c after : Cursor} {taken : Text}
    (h : c.upTo stop = (.ok taken, after)) :
    ∃ rest, after.rest = stop :: rest ∧ c.rest = taken ++ stop :: rest := by
  have happend := List.takeWhile_append_dropWhile
    (p := fun d => decide (d ≠ stop)) (l := c.rest)
  rw [upTo] at h
  split at h
  · cases h
  · next hne =>
    obtain ⟨d, rest, hrest⟩ := List.exists_cons_of_ne_nil hne
    have hd : d = stop := by
      have hhead := List.head_dropWhile_not (fun d => decide (d ≠ stop))
        (l := c.rest) hne
      simp only [hrest, List.head_cons] at hhead
      simpa using hhead
    subst hd
    rw [hrest] at h happend
    cases h
    exact ⟨rest, rfl, happend.symm⟩

theorem accept_of_cons {x : Char} {c : Cursor} {rest : Text}
    (h : c.rest = x :: rest) : c.accept x = (true, c.past [x] rest) := by
  simp [accept, h]

/-- Passing two texts is passing them as one. -/
theorem past_past (c : Cursor) (a b rest rest' : Text) :
    (c.past a rest).past b rest' = c.past (a ++ b) rest' := by
  simp only [past, byteLength_append, Nat.add_assoc]

end Cursor

-- ================================================================ indices

namespace Path

theorem isInt64_iff (i : Int) : isInt64 i = true ↔ IndexRange i := by
  simp only [isInt64, IndexRange, Bool.and_eq_true, decide_eq_true_eq]
  omega

theorem splitSign_cases (t : Text) :
    (∃ body, t = '-' :: body ∧ splitSign t = (['-'], body))
      ∨ splitSign t = ([], t) := by
  unfold splitSign
  split
  · exact .inl ⟨_, rfl, rfl⟩
  · exact .inr rfl

/-- A sign and digits behind it are a numeral of their value. -/
theorem numeral_of_splitSign {t sign digits : Text}
    (hsplit : splitSign t = (sign, digits)) (hne : digits ≠ [])
    (hdigits : ∀ c ∈ digits, c.isDigit = true) :
    Numeral t (integerValue sign digits) := by
  rcases splitSign_cases t with ⟨body, rfl, h⟩ | h
  · rw [h] at hsplit
    cases hsplit
    exact .minus hne hdigits
  · rw [h] at hsplit
    cases hsplit
    exact .plain hne hdigits

/-- A numeral is a sign and digits behind it. -/
theorem Numeral.splitSign {t : Text} {i : Int} (h : Numeral t i) :
    ∃ sign digits, Stencil.splitSign t = (sign, digits) ∧ digits ≠ []
      ∧ (∀ c ∈ digits, c.isDigit = true)
      ∧ integerValue sign digits = i := by
  cases h with
  | @plain _ hne hdigits =>
    refine ⟨[], t, ?_, hne, hdigits, rfl⟩
    rcases splitSign_cases t with ⟨body, rfl, -⟩ | h
    · exact absurd (hdigits '-' (List.mem_cons_self ..)) (by decide)
    · exact h
  | @minus digits hne hdigits => exact ⟨['-'], digits, rfl, hne, hdigits, rfl⟩

/-- The digits of a number are a numeral of it. -/
theorem numeral_ofInt (i : Int) : Numeral (ofInt i) i := by
  have hdigits : ∀ n, ∀ c ∈ Nat.toDigits 10 n, c.isDigit = true :=
    fun n c hc => Nat.isDigit_of_mem_toDigits (by decide) (by decide) hc
  have hvalue : ∀ n, Nat.ofDigitChars 10 (Nat.toDigits 10 n) 0 = n :=
    fun n => Nat.ofDigitChars_toDigits (by decide) (by decide)
  cases i with
  | ofNat n =>
    have h := Numeral.plain Nat.toDigits_ne_nil (hdigits n)
    rwa [hvalue] at h
  | negSucc n =>
    have h := Numeral.minus Nat.toDigits_ne_nil (hdigits (n + 1))
    rwa [hvalue] at h

/-- The texts that are read to their end as a whole number are the
numerals. -/
theorem integer_eq_ok_iff (t : Text) (i : Int) :
    (∃ after, (Cursor.start t).integer = (.ok i, after)
        ∧ after.rest = [])
      ↔ Numeral t i ∧ IndexRange i := by
  rw [← isInt64_iff]
  constructor
  · rintro ⟨after, h, hend⟩
    rcases hsplit : splitSign t with ⟨sign, body⟩
    simp only [Cursor.integer, Cursor.start, hsplit] at h
    split at h
    · cases h
    · next hne =>
      split at h
      · next hrange =>
        cases h
        have hbody : body.takeWhile Char.isDigit = body := by
          have happend :=
            List.takeWhile_append_dropWhile (p := Char.isDigit) (l := body)
          simp only [Cursor.past] at hend
          rwa [hend, List.append_nil] at happend
        rw [hbody] at hne hrange ⊢
        refine ⟨numeral_of_splitSign hsplit hne ?_, hrange⟩
        rw [← hbody]
        exact List.all_eq_true.1 List.all_takeWhile
      · cases h
  · rintro ⟨hnumeral, hrange⟩
    obtain ⟨sign, digits, hsplit, hne, hdigits, rfl⟩ := hnumeral.splitSign
    have htaken : digits.takeWhile Char.isDigit = digits := by
      have h := @takeWhile_append_stop _ _ digits [] hdigits (by simp)
      rwa [List.append_nil] at h
    have hdropped : digits.dropWhile Char.isDigit = [] := by
      have h := @dropWhile_append_stop _ _ digits [] hdigits (by simp)
      rwa [List.append_nil] at h
    refine ⟨(Cursor.start t).past (sign ++ digits) [], ?_, rfl⟩
    simp only [Cursor.integer, Cursor.start, hsplit, htaken, hdropped,
      if_neg hne, if_pos hrange]

/-- What stands between brackets is read as the numeral there. -/
theorem parseIndex_eq_ok_iff (inner : Text) (i : Int) :
    parseIndex inner = .ok i
      ↔ ∃ before numeral after, inner = before ++ numeral ++ after
          ∧ Blank before ∧ Numeral numeral i ∧ Blank after
          ∧ IndexRange i := by
  have hread : parseIndex inner = .ok i
      ↔ Numeral (trim inner) i ∧ IndexRange i := by
    rw [← integer_eq_ok_iff, parseIndex]
    rcases (Cursor.start (trim inner)).integer with ⟨e | j, after⟩
    · simp
    · by_cases hend : after.rest = []
      · simp [Cursor.atEnd, hend, and_assoc]
      · simp [Cursor.atEnd, hend, and_assoc]
  rw [hread]
  constructor
  · rintro ⟨hnumeral, hrange⟩
    obtain ⟨before, after, hbefore, hafter, hinner⟩ := exists_eq_trim inner
    exact ⟨before, trim inner, after, hinner, hbefore, hnumeral, hafter,
      hrange⟩
  · rintro ⟨before, numeral, after, rfl, hbefore, hnumeral, hafter, hrange⟩
    rw [trim_surrounded hbefore hafter, trim_of_no_blank hnumeral.no_blank]
    exact ⟨hnumeral, hrange⟩

-- ============================================================ the steps

theorem exists_of_map_eq_ok {ε α β : Type} {x : Except ε α} {f : α → β}
    {y : β} (h : x.map f = .ok y) : ∃ a, x = .ok a ∧ y = f a := by
  cases x with
  | error e => cases h
  | ok a =>
    cases h
    exact ⟨a, rfl, rfl⟩

theorem parseSteps_of_nil {c : Cursor} (hc : c.rest = []) :
    parseSteps c = .ok [] := by
  rw [parseSteps]
  split
  · rfl
  · next h => rw [hc] at h; cases h
  · next h => rw [hc] at h; cases h
  · next hnil _ _ => exact (hnil hc).elim

/-- A name behind a dot is read, and the steps behind it. -/
theorem parseSteps_of_field {c : Cursor} {name t : Text}
    (hc : c.rest = '.' :: (name ++ t)) (hname : isIdentifier name = true)
    (ht : ∀ d, t.head? = some d → isIdentContinue d = false) :
    parseSteps c
      = (parseSteps (c.past ('.' :: name) t)).map (.field name :: ·) := by
  let behind := c.past ['.'] (name ++ t)
  have hread : behind.identifier = _ :=
    Cursor.identifier_of_append rfl hname ht
  rw [Cursor.past_past] at hread
  rw [parseSteps]
  split
  · next h => rw [hc] at h; cases h
  · next u hu =>
    rw [hc] at hu
    cases hu
    rw [hread]
    rfl
  · next h => rw [hc] at h; cases h
  · next _ hdot _ => exact (hdot _ hc).elim

/-- An index between brackets is read, and the steps behind it. -/
theorem parseSteps_of_index {c : Cursor} {inner t : Text} {i : Int}
    (hc : c.rest = '[' :: (inner ++ ']' :: t)) (hinner : ']' ∉ inner)
    (hi : parseIndex inner = .ok i) :
    parseSteps c
      = (parseSteps (c.past ('[' :: inner ++ [']']) t)).map
          (.index i :: ·) := by
  let opened := c.past ['['] (inner ++ ']' :: t)
  have hread : opened.upTo ']' = _ := Cursor.upTo_of_append rfl hinner
  rw [Cursor.past_past] at hread
  have hclose : (c.past (['['] ++ inner) (']' :: t)).accept ']'
      = (true, c.past ('[' :: inner ++ [']']) t) := by
    rw [Cursor.accept_of_cons rfl, Cursor.past_past]
    rfl
  rw [parseSteps]
  split
  · next h => rw [hc] at h; cases h
  · next h => rw [hc] at h; cases h
  · next u hu =>
    rw [hc] at hu
    cases hu
    rw [hread]
    simp only [hi, hclose]
  · next _ _ hopen => exact (hopen _ hc).elim

/-- What is read as steps is a written form of them. -/
theorem written_of_parseSteps {c : Cursor} {path : Path}
    (h : parseSteps c = .ok path) : WrittenSteps c.rest path := by
  fun_induction parseSteps c generalizing path with
  | case1 c hrest =>
    cases h
    rw [hrest]
    exact .nil
  | case2 c t hrest e after hname => cases h
  | case3 c t hrest name after hname ih =>
    obtain ⟨rest, hparsed, rfl⟩ := exists_of_map_eq_ok h
    obtain ⟨hidentifier, ht⟩ := Cursor.of_identifier_eq_ok hname
    simp only [Cursor.past] at ht
    rw [hrest, ht]
    exact .field hidentifier (ih hparsed)
  | case4 c t hrest e after hinner => cases h
  | case5 c t hrest inner after hinner e hindex => cases h
  | case6 c t hrest inner after hinner i hindex ih =>
    obtain ⟨rest, hparsed, rfl⟩ := exists_of_map_eq_ok h
    obtain ⟨behind, hafter, ht⟩ := Cursor.of_upTo_eq_ok hinner
    obtain ⟨before, numeral, blank, rfl, hbefore, hnumeral, hblank, hrange⟩ :=
      (parseIndex_eq_ok_iff inner i).1 hindex
    have hsteps := ih hparsed
    rw [Cursor.accept_of_cons hafter] at hsteps
    simp only [Cursor.past] at ht hsteps
    rw [hrest, ht]
    exact .index hbefore hnumeral hblank hrange hsteps
  | case7 => cases h

/-- A written form of steps is read as them. -/
theorem WrittenSteps.parseSteps {t : Text} {path : Path}
    (h : WrittenSteps t path) {c : Cursor} (hc : c.rest = t) :
    Path.parseSteps c = .ok path := by
  induction h generalizing c with
  | nil => exact parseSteps_of_nil hc
  | @field name t path hname hsteps ih =>
    rw [parseSteps_of_field hc hname hsteps.head, ih rfl]
    rfl
  | @index before numeral blank t i path hbefore hnumeral hblank hrange _ ih =>
    have hi := (parseIndex_eq_ok_iff (before ++ numeral ++ blank) i).2
      ⟨before, numeral, blank, rfl, hbefore, hnumeral, hblank, hrange⟩
    have hinner := not_mem_inner (d := ']') hbefore hnumeral hblank
      (by decide) (by decide) (by decide)
    rw [parseSteps_of_index hc hinner hi, ih rfl]
    rfl

-- ============================================================== the path

theorem writtenSteps_field {name : Text} (hname : isIdentifier name = true) :
    WrittenSteps ('.' :: name) [.field name] := by
  have h := WrittenSteps.field hname .nil
  rwa [List.append_nil] at h

theorem written_field {name : Text} (hname : isIdentifier name = true) :
    Written name [.field name] := by
  have h := Written.intro hname .nil
  rwa [List.append_nil] at h

/-- The names in a written path are identifiers. -/
theorem WrittenSteps.isIdentifier_of_mem {t : Text} {path : Path}
    (h : WrittenSteps t path) {name : Text} (hname : .field name ∈ path) :
    isIdentifier name = true := by
  induction h with
  | nil => cases hname
  | field hfirst _ ih =>
    rcases List.mem_cons.1 hname with h | hname
    · cases h
      exact hfirst
    · exact ih hname
  | index _ _ _ _ _ ih =>
    rcases List.mem_cons.1 hname with h | hname
    · cases h
    · exact ih hname

theorem Written.ne_nil {t : Text} {path : Path} (h : Written t path) :
    path ≠ [] := by
  cases h
  exact List.cons_ne_nil _ _

/-- So are all names in one that starts with a name. -/
theorem Written.isIdentifier_of_mem {t : Text} {path : Path}
    (h : Written t path) {name : Text} (hname : .field name ∈ path) :
    isIdentifier name = true := by
  cases h with
  | intro hfirst hsteps =>
    rcases List.mem_cons.1 hname with heq | hname
    · cases heq
      exact hfirst
    · exact hsteps.isIdentifier_of_mem hname

/-- A character that no written path has anywhere. -/
def Foreign (d : Char) : Prop :=
  isIdentContinue d = false ∧ isBlank d = false ∧ d.isDigit = false
    ∧ d ∉ ['.', '[', ']', '-']

instance (d : Char) : Decidable (Foreign d) := by
  unfold Foreign
  infer_instance

theorem not_mem_identifier {name : Text} {d : Char} (hd : Foreign d)
    (hname : isIdentifier name = true) : d ∉ name := by
  intro h
  have hnone := hd.1
  rw [isIdentContinue_of_mem hname h] at hnone
  cases hnone

theorem WrittenSteps.not_mem {t : Text} {path : Path} {d : Char}
    (h : WrittenSteps t path) (hd : Foreign d) : d ∉ t := by
  have hmarks := hd.2.2.2
  simp only [List.mem_cons, not_or] at hmarks
  obtain ⟨hdot, hopen, hclose, hsign, -⟩ := hmarks
  induction h with
  | nil => exact List.not_mem_nil
  | field hname hsteps ih =>
    simp only [List.mem_cons, List.mem_append, not_or]
    exact ⟨hdot, not_mem_identifier hd hname, ih⟩
  | index hbefore hnumeral hafter hrange hsteps ih =>
    have hinner := not_mem_inner hbefore hnumeral hafter hd.2.1 hd.2.2.1 hsign
    rw [List.mem_cons, List.mem_append, List.mem_cons]
    simp only [not_or]
    exact ⟨hopen, hinner, hclose, ih⟩

theorem Written.not_mem {t : Text} {path : Path} {d : Char}
    (h : Written t path) (hd : Foreign d) : d ∉ t := by
  cases h with
  | intro hname hsteps =>
    simp only [List.mem_append, not_or]
    exact ⟨not_mem_identifier hd hname, hsteps.not_mem hd⟩

theorem isBlank_of_mem_identifier {name : Text} {c : Char}
    (hname : isIdentifier name = true) (hc : c ∈ name) : isBlank c = false :=
  isBlank_of_isIdentContinue (isIdentContinue_of_mem hname hc)

theorem WrittenSteps.last {t : Text} {path : Path}
    (h : WrittenSteps t path) :
    ∀ c, t.getLast? = some c → isBlank c = false := by
  induction h with
  | nil =>
    intro c hc
    cases hc
  | @field name t path hname hsteps ih =>
    intro c hc
    rw [← List.cons_append, List.getLast?_append,
      Option.or_eq_some_iff] at hc
    rcases hc with hc | ⟨-, hc⟩
    · exact ih c hc
    · rcases List.mem_cons.1 (List.mem_of_getLast? hc) with rfl | hc
      · decide
      · exact isBlank_of_mem_identifier hname hc
  | @index before numeral after t i path _ _ _ _ hsteps ih =>
    intro c hc
    have hsplit : '[' :: (before ++ numeral ++ after ++ ']' :: t)
        = ('[' :: (before ++ numeral ++ after) ++ [']']) ++ t := by simp
    rw [hsplit, List.getLast?_append, List.getLast?_concat,
      Option.or_eq_some_iff] at hc
    rcases hc with hc | ⟨-, hc⟩
    · exact ih c hc
    · cases hc
      decide

/-- A written path neither starts nor ends with white space. -/
theorem Written.trim_eq {t : Text} {path : Path} (h : Written t path) :
    trim t = t := by
  cases h with
  | @intro name rest path hname hsteps =>
    obtain ⟨x, name, rfl⟩ :=
      List.exists_cons_of_ne_nil (ne_nil_of_isIdentifier hname)
    refine trim_eq_self (fun c hc => ?_) (fun c hc => ?_)
    · cases hc
      exact isBlank_of_mem_identifier hname (List.mem_cons_self ..)
    · rw [List.getLast?_append, Option.or_eq_some_iff] at hc
      rcases hc with hc | ⟨-, hc⟩
      · exact hsteps.last c hc
      · exact isBlank_of_mem_identifier hname (List.mem_of_getLast? hc)

-- ================================================================ reading

/-- What is read as a path is, trimmed, a written form of it. -/
theorem written_of_parse {t : Text} {path : Path}
    (h : parse t = .ok path) : Written (trim t) path := by
  rw [parse] at h
  split at h
  · cases h
  · next name after hname =>
    obtain ⟨steps, hsteps, rfl⟩ := exists_of_map_eq_ok h
    obtain ⟨hidentifier, ht⟩ := Cursor.of_identifier_eq_ok hname
    simp only [Cursor.start] at ht
    rw [ht]
    exact .intro hidentifier (written_of_parseSteps hsteps)

/-- A text that is, trimmed, a written form of a path is read as it. -/
theorem parse_of_written {t : Text} {path : Path}
    (h : Written (trim t) path) : parse t = .ok path := by
  generalize htrim : trim t = text at h
  cases h with
  | @intro name rest steps hname hsteps =>
    have hfirst := Cursor.identifier_of_append
      (c := Cursor.start (name ++ rest)) rfl hname hsteps.head
    rw [parse, htrim, hfirst]
    simp only [hsteps.parseSteps (c := Cursor.past _ name rest) rfl]
    rfl

/-- A text is read as a path exactly if it is, but for the white space at
its ends, a written form of it. So what is read starts with a name, and
all names in it are identifiers. -/
theorem parse_eq_ok_iff (t : Text) (path : Path) :
    (parse t = .ok path ↔ Written (trim t) path)
      ∧ (parse t = .ok path →
        (∃ name steps, path = .field name :: steps)
          ∧ ∀ name, .field name ∈ path → isIdentifier name = true) := by
  refine ⟨⟨written_of_parse, parse_of_written⟩, fun h => ?_⟩
  have hwritten := written_of_parse h
  generalize trim t = text at hwritten
  cases hwritten with
  | @intro name rest steps hname hsteps =>
    refine ⟨⟨name, steps, rfl⟩, fun other hother => ?_⟩
    rcases List.mem_cons.1 hother with heq | hother
    · cases heq
      exact hname
    · exact hsteps.isIdentifier_of_mem hother

-- Zeros in front and white space inside the brackets are no matter; a `+`
-- is no sign.
example : (parse "a[ -007 ].b".toList).toOption
    = some [.field ['a'], .index (-7), .field ['b']] := by
  decide +kernel

example : (parse "a[+7]".toList).toOption = none := by
  decide +kernel

end Path

end Stencil
