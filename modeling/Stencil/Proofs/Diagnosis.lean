/-
What is wrong with a text that is no path.

A path is read segment by segment: a name, and behind it names with a dot
and indices in brackets. Of a text that is no path some front part can
still be read as whole segments, and the longest such part says where the
reading has come to. What comes next there decides what is reported
(`Faults`): a dot without a name, brackets that are not closed or do not
hold an index, or anything else. Within brackets the first thing that is
wrong counts, so a number that is too large is told of whatever comes
behind it. Positions are those of bytes in the text without the white
space at its ends.

# The argument

The longest part is read as its segments, and the reader then stands
behind it (`parse_of_longest`): a name in it is followed by nothing that
could be part of the name, for otherwise there would be a longer part
(`stops_of_longest`). There the reader is stuck, since the next segment
would make the part longer too, and what it reports depends on what comes
next in the same way as `Faults` (`parseSteps_eq_error_iff`).

Main statement: `parse_diagnosis`.
-/
import Mathlib.Data.List.Induction
import Stencil.Proofs.Courses

namespace Stencil

open Text

namespace Path

-- ================================================ statement vocabulary

/-- Whole segments of a path, if any: nothing, or the written form of a
path. -/
def Segments (t : Text) : Prop := t = [] ∨ ∃ path, Written t path

/-- The text starts with a digit, or with `-` and a digit. -/
def StartsNumber (t : Text) : Prop :=
  ∃ sign d more, (sign = [] ∨ sign = ['-']) ∧ d.isDigit = true
    ∧ t = sign ++ d :: more

/-- All that belongs to the number at the front of a text, and its
value. -/
structure NumberAhead (t numeral : Text) (i : Int) : Prop where
  longest : Longest SignedDigits t numeral
  value : Numeral numeral i

/-- The text starts with brackets and this between them. -/
def Brackets (t inner : Text) : Prop :=
  ']' ∉ inner ∧ ∃ more, t = '[' :: (inner ++ ']' :: more)

/-- What can be wrong with what stands between brackets. -/
def IndexFaults (inner : Text) : SyntaxError → Prop
  | .integerExpected => ¬ StartsNumber (trim inner)
  | .integerTooLarge =>
    ∃ numeral i, NumberAhead (trim inner) numeral i ∧ ¬ IndexRange i
  | .badIndex text =>
    text = inner ∧ ∃ numeral i, NumberAhead (trim inner) numeral i
      ∧ IndexRange i ∧ numeral ≠ trim inner
  | _ => False

/-- What can be wrong with a text of which `passed` is whole segments and
`rest` comes next. -/
def Faults (passed rest : Text) : SyntaxError → Prop
  | .identifierExpected offset =>
    ¬ StartsName (passed ++ rest) ∧ offset = 0
      ∨ passed ≠ [] ∧ ∃ more, rest = '.' :: more ∧ ¬ StartsName more
        ∧ offset = byteLength passed + 1
  | .charExpected c =>
    passed ≠ [] ∧ ∃ more, rest = '[' :: more ∧ ']' ∉ more ∧ c = ']'
  | .unexpected text =>
    passed ≠ [] ∧ ∃ c more, rest = c :: more ∧ c ≠ '.' ∧ c ≠ '['
      ∧ text = rest
  | e => passed ≠ [] ∧ ∃ inner, Brackets rest inner ∧ IndexFaults inner e

end Path

-- ==================================================== longest front parts

namespace Longest

variable {kind kind' : Text → Prop} {t u : Text}

/-- If there is a front part of some kind, there is a longest one. -/
theorem exists_of_nil (h : kind []) (t : Text) :
    ∃ front, Longest kind t front := by
  induction t using List.reverseRecOn with
  | nil => exact ⟨[], List.prefix_rfl, h, fun other hother _ => hother⟩
  | append_singleton t c ih =>
    by_cases hall : kind (t ++ [c])
    · exact ⟨t ++ [c], List.prefix_rfl, hall, fun other hother _ => hother⟩
    · obtain ⟨front, hfront⟩ := ih
      refine ⟨front, hfront.within.trans (List.prefix_append ..),
        hfront.fits, fun other hother hfits => ?_⟩
      rcases List.prefix_concat_iff.1 hother with rfl | hother
      · exact absurd hfits hall
      · exact hfront.longest other hother hfits

/-- What is left of a longest front part behind some text is longest
there. -/
theorem behind {a : Text} (h : Longest kind' (a ++ t) (a ++ u))
    (hu : kind u) (hkind : ∀ v, kind v → kind' (a ++ v)) :
    Longest kind t u where
  within := (List.prefix_append_right_inj a).1 h.within
  fits := hu
  longest v hv hfits :=
    (List.prefix_append_right_inj a).1
      (h.longest (a ++ v) ((List.prefix_append_right_inj a).2 hv)
        (hkind v hfits))

end Longest

-- =================================================================== names

theorem isIdentifier_concat {name : Text} {c : Char}
    (hname : isIdentifier name = true) (hc : isIdentContinue c = true) :
    isIdentifier (name ++ [c]) = true := by
  cases name with
  | nil => cases hname
  | cons x name =>
    rw [isIdentifier, Bool.and_eq_true] at hname
    rw [List.cons_append, isIdentifier, hname.1, List.all_append, hname.2]
    simp [hc]

namespace Path

/-- Nothing can be added to a name at the end of a longest front part. -/
theorem stops_of_longest {kind : Text → Prop} {a name t rest : Text}
    {path : Path}
    (h : Longest kind (a ++ (name ++ t) ++ rest) (a ++ (name ++ t)))
    (hname : isIdentifier name = true) (ht : WrittenSteps t path)
    (hkind : ∀ other, isIdentifier other = true → kind (a ++ other)) :
    ∀ d, (t ++ rest).head? = some d → isIdentContinue d = false := by
  intro d hd
  cases t with
  | cons x t => exact ht.head d hd
  | nil =>
    by_contra hcontinue
    rw [Bool.not_eq_false] at hcontinue
    obtain ⟨rest, rfl⟩ := List.head?_eq_some_iff.1 hd
    rw [List.append_nil] at h
    have hlonger := h.longest (a ++ (name ++ [d]))
      ⟨rest, by simp⟩ (hkind _ (isIdentifier_concat hname hcontinue))
    have hlength := hlonger.length_le
    simp only [List.length_append, List.length_singleton] at hlength
    omega

-- =============================================================== segments

theorem WrittenSteps.append {t u : Text} {path path' : Path}
    (h : WrittenSteps t path) (h' : WrittenSteps u path') :
    WrittenSteps (t ++ u) (path ++ path') := by
  induction h with
  | nil => exact h'
  | field hname _ ih =>
    rw [List.cons_append, List.append_assoc]
    exact .field hname ih
  | index hbefore hnumeral hafter hrange _ ih =>
    rw [List.cons_append, List.append_assoc, List.cons_append]
    exact .index hbefore hnumeral hafter hrange ih

theorem Written.append {t u : Text} {path path' : Path}
    (h : Written t path) (h' : WrittenSteps u path') :
    Written (t ++ u) (path ++ path') := by
  cases h with
  | intro hname hsteps =>
    rw [List.append_assoc]
    exact .intro hname (hsteps.append h')

theorem Written.startsName {t : Text} {path : Path} (h : Written t path)
    (rest : Text) : StartsName (t ++ rest) := by
  cases h with
  | intro hname =>
    rw [List.append_assoc]
    exact startsName_append _ hname

theorem map_map_parsed (x : Except SyntaxError Path) (p q : Path) :
    (x.map (q ++ ·)).map (p ++ ·) = x.map (p ++ q ++ ·) := by
  cases x with
  | error e => rfl
  | ok path => exact congrArg Except.ok (List.append_assoc p q path).symm

/-- The longest part that is steps is read as them. -/
theorem parseSteps_of_longest {t : Text} {path : Path}
    (ht : WrittenSteps t path) {c : Cursor} {rest : Text}
    (hc : c.rest = t ++ rest)
    (h : Longest (∃ path, WrittenSteps · path) (t ++ rest) t) :
    parseSteps c = (parseSteps (c.past t rest)).map (path ++ ·) := by
  induction ht generalizing c with
  | nil =>
    have hsame : c.past [] rest = c := by
      rw [← show c.rest = rest from hc]
      rfl
    rw [hsame]
    cases parseSteps c <;> rfl
  | @field name t path hname hsteps ih =>
    have hstops := stops_of_longest (a := ['.']) h hname hsteps
      fun _ hother => ⟨_, writtenSteps_field hother⟩
    have hwhole : Longest (∃ path, WrittenSteps · path)
        ('.' :: name ++ (t ++ rest)) ('.' :: name ++ t) := by
      simpa using h
    have hshorter : Longest (∃ path, WrittenSteps · path) (t ++ rest) t :=
      hwhole.behind ⟨path, hsteps⟩ fun v ⟨_, hv⟩ => ⟨_, .field hname hv⟩
    rw [List.cons_append, List.append_assoc] at hc
    rw [parseSteps_of_field hc hname hstops, ih rfl hshorter,
      Cursor.past_past]
    exact map_map_parsed _ [.field name] path
  | @index before numeral after t i path hbefore hnumeral hafter hrange
      hsteps ih =>
    have hi := (parseIndex_eq_ok_iff (before ++ numeral ++ after) i).2
      ⟨before, numeral, after, rfl, hbefore, hnumeral, hafter, hrange⟩
    have hinner := not_mem_inner (d := ']') hbefore hnumeral hafter
      (by decide) (by decide) (by decide)
    have hsplit : ∀ v, '[' :: (before ++ numeral ++ after ++ ']' :: v)
        = '[' :: (before ++ numeral ++ after) ++ [']'] ++ v := by simp
    have hwhole := h
    rw [hsplit, List.append_assoc] at hwhole
    have hshorter : Longest (∃ path, WrittenSteps · path) (t ++ rest) t := by
      refine hwhole.behind ⟨path, hsteps⟩ fun v ⟨_, hv⟩ => ?_
      rw [← hsplit]
      exact ⟨_, .index hbefore hnumeral hafter hrange hv⟩
    rw [List.cons_append, List.append_assoc, List.cons_append] at hc
    rw [parseSteps_of_index hc hinner hi, ih rfl hshorter, Cursor.past_past,
      hsplit]
    exact map_map_parsed _ [.index i] path

/-- The longest part that is a path is read as it, and reading goes on
behind it. -/
theorem parse_of_longest {t passed rest : Text} {path : Path}
    (ht : trim t = passed ++ rest) (hpath : Written passed path)
    (h : Longest Segments (trim t) passed) :
    parse t
      = (parseSteps ⟨byteLength passed, rest⟩).map (path ++ ·) := by
  cases hpath with
  | @intro name u path hname hsteps =>
    rw [ht] at h
    have hstops := stops_of_longest (a := []) h hname hsteps
      fun _ hother => .inr ⟨_, written_field hother⟩
    rw [List.append_assoc] at h
    have hlongest : Longest (∃ path, WrittenSteps · path) (u ++ rest) u :=
      h.behind ⟨path, hsteps⟩ fun v ⟨_, hv⟩ => .inr ⟨_, .intro hname hv⟩
    have hfirst := Cursor.identifier_of_append
      (c := Cursor.start (name ++ (u ++ rest))) rfl hname hstops
    have hrest := parseSteps_of_longest hsteps
      (c := (Cursor.start (name ++ (u ++ rest))).past name (u ++ rest)) rfl
      hlongest
    rw [List.append_assoc] at ht
    rw [parse, ht, hfirst]
    simp only [hrest, Cursor.past_past]
    have hplace : (Cursor.start (name ++ (u ++ rest))).past (name ++ u) rest
        = ⟨byteLength (name ++ u), rest⟩ := by
      simp [Cursor.past, Cursor.start]
    rw [hplace]
    exact map_map_parsed _ [.field name] path

-- ================================================================ indices

theorem Numeral.unique {t : Text} {i j : Int} (hi : Numeral t i)
    (hj : Numeral t j) : i = j := by
  obtain ⟨sign, digits, hsplit, -, -, rfl⟩ := hi.splitSign
  obtain ⟨sign', digits', hsplit', -, -, rfl⟩ := hj.splitSign
  rw [hsplit] at hsplit'
  cases hsplit'
  rfl

theorem NumberAhead.unique {t numeral numeral' : Text} {i j : Int}
    (h : NumberAhead t numeral i) (h' : NumberAhead t numeral' j) :
    numeral = numeral' ∧ i = j := by
  have hsame := h.longest.unique h'.longest
  subst hsame
  exact ⟨rfl, h.value.unique h'.value⟩

/-- What is said of some number ahead is said of this one. -/
theorem NumberAhead.exists_iff {t numeral : Text} {i : Int}
    (h : NumberAhead t numeral i) (p : Text → Int → Prop) :
    (∃ numeral i, NumberAhead t numeral i ∧ p numeral i) ↔ p numeral i := by
  constructor
  · rintro ⟨numeral', i', h', hp⟩
    obtain ⟨rfl, rfl⟩ := h.unique h'
    exact hp
  · exact fun hp => ⟨numeral, i, h, hp⟩

theorem startsNumber_of_ahead {t numeral : Text} {i : Int}
    (h : NumberAhead t numeral i) : StartsNumber t := by
  obtain ⟨more, rfl⟩ := h.longest.within
  cases h.value with
  | plain hne hdigits =>
    obtain ⟨d, digits, rfl⟩ := List.exists_cons_of_ne_nil hne
    exact ⟨[], d, digits ++ more, .inl rfl, hdigits d (List.mem_cons_self ..),
      rfl⟩
  | minus hne hdigits =>
    obtain ⟨d, digits, rfl⟩ := List.exists_cons_of_ne_nil hne
    exact ⟨['-'], d, digits ++ more, .inr rfl,
      hdigits d (List.mem_cons_self ..), rfl⟩

/-- Where a text starts like a number, some of it belongs to the number. -/
theorem exists_numeral_of_startsNumber {t taken : Text}
    (h : StartsNumber t) (htaken : Longest SignedDigits t taken) :
    ∃ i, Numeral taken i := by
  obtain ⟨sign, d, more, hsign, hd, rfl⟩ := h
  have hdigit : ∀ c ∈ [d], c.isDigit = true := by simpa using hd
  have hfront : SignedDigits (sign ++ [d]) := by
    rcases hsign with rfl | rfl
    · exact .plain hdigit
    · exact .minus hdigit
  have hwithin := htaken.longest (sign ++ [d]) ⟨more, by simp⟩ hfront
  exact exists_numeral htaken.fits (hwithin.subset (by simp)) hd

/-- What stands between brackets starts like no number, or it starts with
one, which has to be all of it but for white space. -/
theorem parseIndex_cases (inner : Text) :
    (¬ StartsNumber (trim inner)
        ∧ parseIndex inner = .error .integerExpected)
      ∨ ∃ numeral i, NumberAhead (trim inner) numeral i
        ∧ parseIndex inner
          = if isInt64 i then
              if numeral = trim inner then .ok i
              else .error (.badIndex inner)
            else .error .integerTooLarge := by
  obtain ⟨taken, behind, happend, hlongest, hcases⟩ :=
    (Cursor.start (trim inner)).integer_cases
  simp only [Cursor.start] at happend hlongest
  rcases hcases with ⟨hnone, h⟩ | ⟨i, hnumeral, h⟩
  · refine .inl ⟨fun hstarts => ?_, by rw [parseIndex, h]⟩
    obtain ⟨i, hnumeral⟩ := exists_numeral_of_startsNumber hstarts hlongest
    exact hnone i hnumeral
  · refine .inr ⟨taken, i, ⟨hlongest, hnumeral⟩, ?_⟩
    have hend : behind = [] ↔ taken = trim inner := by
      rw [happend]
      simp
    rw [parseIndex, h]
    by_cases hrange : isInt64 i = true
    · simp only [if_pos hrange, Cursor.atEnd, Cursor.past,
        List.isEmpty_iff, hend]
    · simp only [if_neg hrange]

/-- What is reported of brackets is what is wrong with what stands between
them. -/
theorem parseIndex_eq_error_iff (inner : Text) (e : SyntaxError) :
    parseIndex inner = .error e ↔ IndexFaults inner e := by
  rcases parseIndex_cases inner with ⟨hnone, h⟩ | ⟨numeral, i, hahead, h⟩
  · rw [h]
    have hno : ∀ {numeral i}, ¬ NumberAhead (trim inner) numeral i :=
      fun hahead => hnone (startsNumber_of_ahead hahead)
    cases e <;> simp [IndexFaults, hnone, hno]
  · have hstarts := startsNumber_of_ahead hahead
    have hthis := hahead.exists_iff
    rw [h]
    by_cases hrange : isInt64 i = true
    · rw [if_pos hrange]
      rw [isInt64_iff] at hrange
      by_cases hall : numeral = trim inner
      · rw [if_pos hall]
        cases e <;>
          simp only [IndexFaults, hthis, hstarts, hrange, hall, reduceCtorEq,
            not_true_eq_false, ne_eq, and_false]
      · rw [if_neg hall]
        cases e <;>
          simp only [IndexFaults, hthis, hstarts, hrange, hall, reduceCtorEq,
            Except.error.injEq, SyntaxError.badIndex.injEq, not_true_eq_false,
            not_false_eq_true, ne_eq, and_true, and_self, eq_comm]
    · rw [if_neg hrange]
      rw [isInt64_iff] at hrange
      cases e <;>
        simp only [IndexFaults, hthis, hstarts, hrange, reduceCtorEq,
          Except.error.injEq, not_true_eq_false, not_false_eq_true,
          false_and, and_false]

-- ============================================== what comes where it stops

section Faults

variable {passed more : Text} (hne : passed ≠ [])

theorem brackets_iff {inner inner' : Text} (hinner : ']' ∉ inner) :
    Brackets ('[' :: (inner ++ ']' :: more)) inner' ↔ inner' = inner := by
  constructor
  · rintro ⟨hinner', more', h⟩
    have hread := Cursor.upTo_of_append (c := ⟨0, inner ++ ']' :: more⟩)
      rfl hinner
    rw [Cursor.upTo_of_append (List.cons.inj h).2 hinner'] at hread
    cases hread
    rfl
  · rintro rfl
    exact ⟨hinner, more, rfl⟩

theorem faults_nil (hstarts : StartsName (passed ++ [])) (e : SyntaxError) :
    ¬ Faults passed [] e := by
  rw [List.append_nil] at hstarts
  cases e <;> simp [Faults, Brackets, hstarts]

include hne

theorem faults_dot (hstarts : StartsName (passed ++ '.' :: more))
    (hmore : ¬ StartsName more) (e : SyntaxError) :
    Faults passed ('.' :: more) e
      ↔ .identifierExpected (byteLength passed + 1) = e := by
  cases e <;> simp [Faults, Brackets, hne, hstarts, hmore, eq_comm]

theorem faults_unclosed (hstarts : StartsName (passed ++ '[' :: more))
    (hmore : ']' ∉ more) (e : SyntaxError) :
    Faults passed ('[' :: more) e ↔ .charExpected ']' = e := by
  have hno : ∀ inner, ¬ Brackets ('[' :: more) inner := by
    rintro inner ⟨-, behind, h⟩
    rw [(List.cons.inj h).2] at hmore
    exact hmore (by simp)
  cases e <;> simp [Faults, hne, hstarts, hmore, hno, eq_comm]

theorem faults_brackets {inner : Text}
    (hstarts : StartsName (passed ++ '[' :: (inner ++ ']' :: more)))
    (hinner : ']' ∉ inner) (e : SyntaxError) :
    Faults passed ('[' :: (inner ++ ']' :: more)) e
      ↔ IndexFaults inner e := by
  cases e <;>
    simp [Faults, IndexFaults, brackets_iff hinner, hne, hstarts]

theorem faults_other {c : Char} (hstarts : StartsName (passed ++ c :: more))
    (hdot : c ≠ '.') (hopen : c ≠ '[') (e : SyntaxError) :
    Faults passed (c :: more) e ↔ .unexpected (c :: more) = e := by
  cases e <;>
    simp [Faults, Brackets, hne, hstarts, hdot, hopen, eq_comm]

end Faults

/-- No whole segment comes next. -/
theorem not_written_of_stuck {front more : Text} {step : Step}
    (hstuck : Longest (∃ path, WrittenSteps · path) (front ++ more) [])
    (hne : front ≠ []) : ¬ WrittenSteps front [step] := by
  intro h
  have hnil := hstuck.longest front (List.prefix_append ..) ⟨_, h⟩
  exact hne (List.prefix_nil.1 hnil)

/-- A reader that has read whole segments and finds no further one reports
what is wrong there. -/
theorem parseSteps_eq_error_iff {passed rest : Text} {path : Path}
    (hpath : Written passed path)
    (hstuck : Longest (∃ path, WrittenSteps · path) rest [])
    (e : SyntaxError) :
    parseSteps ⟨byteLength passed, rest⟩ = .error e
      ↔ Faults passed rest e := by
  have hne : passed ≠ [] := by
    rintro rfl
    obtain ⟨x, hx, -⟩ := hpath.startsName []
    cases hx
  have hstarts := hpath.startsName rest
  rw [parseSteps]
  split
  · next hrest =>
    subst hrest
    exact iff_of_false nofun (faults_nil hstarts e)
  · next more hrest =>
    subst hrest
    rcases ((⟨byteLength passed, '.' :: more⟩ : Cursor).past ['.']
        more).identifier_cases with ⟨name, behind, hname, hlongest, -⟩ | ⟨hno, h⟩
    · have hmore : more = name ++ behind := hname
      have hstuck' : Longest (∃ path, WrittenSteps · path)
          (('.' :: name) ++ behind) [] := by
        rwa [List.cons_append, ← hmore]
      exact absurd (writtenSteps_field hlongest.fits)
        (not_written_of_stuck hstuck' (List.cons_ne_nil _ _))
    · rw [h, faults_dot hne hstarts hno]
      exact iff_of_eq (Except.error.injEq ..)
  · next more hrest =>
    subst hrest
    rcases ((⟨byteLength passed, '[' :: more⟩ : Cursor).past ['[']
        more).upTo_cases ']' with ⟨inner, behind, hmore, hinner, h⟩ | ⟨hno, h⟩
    · obtain rfl : more = inner ++ ']' :: behind := hmore
      rw [h, faults_brackets hne hstarts hinner, ← parseIndex_eq_error_iff]
      cases hindex : parseIndex inner with
      | error e' => simp only [hindex, Except.error.injEq]
      | ok i =>
        obtain ⟨before, numeral, after, rfl, hbefore, hnumeral, hafter,
          hrange⟩ := (parseIndex_eq_ok_iff inner i).1 hindex
        have hstuck' : Longest (∃ path, WrittenSteps · path)
            (('[' :: (before ++ numeral ++ after) ++ ']' :: []) ++ behind)
            [] := by
          simpa using hstuck
        exact absurd (WrittenSteps.index hbefore hnumeral hafter hrange .nil)
          (not_written_of_stuck hstuck' (List.cons_ne_nil _ _))
    · rw [h, faults_unclosed hne hstarts hno]
      exact iff_of_eq (Except.error.injEq ..)
  · next hnil hdot hopen =>
    obtain ⟨c, more, rfl⟩ := List.exists_cons_of_ne_nil hnil
    rw [faults_other hne hstarts (fun h => hdot more (by rw [h]))
      (fun h => hopen more (by rw [h]))]
    exact iff_of_eq (Except.error.injEq ..)

/-- A reader that finds no path in front of a text reports that none
starts there. -/
theorem parse_of_no_segments {t : Text} (h : Longest Segments (trim t) []) :
    ¬ StartsName (trim t)
      ∧ parse t = .error (.identifierExpected 0) := by
  rcases (Cursor.start (trim t)).identifier_cases with
    ⟨name, behind, -, hlongest, -⟩ | ⟨hno, hfirst⟩
  · have hnil := h.longest name hlongest.within
      (.inr ⟨_, written_field hlongest.fits⟩)
    exact absurd (List.prefix_nil.1 hnil)
      (ne_nil_of_isIdentifier hlongest.fits)
  · refine ⟨hno, ?_⟩
    rw [parse, hfirst]
    rfl

/-- What is reported of a text is what is wrong with it, by the longest
part of it that is whole segments. -/
theorem parse_eq_error_iff {t passed rest : Text}
    (h : Longest Segments (trim t) passed) (ht : trim t = passed ++ rest)
    (e : SyntaxError) : parse t = .error e ↔ Faults passed rest e := by
  rcases h.fits with rfl | ⟨path, hpath⟩
  · obtain ⟨hno, hparse⟩ := parse_of_no_segments h
    rw [ht, List.nil_append] at hno
    rw [hparse]
    cases e <;> simp [Faults, hno, eq_comm]
  · rw [parse_of_longest ht hpath h, ← parseSteps_eq_error_iff hpath ?_ e]
    · cases parseSteps ⟨byteLength passed, rest⟩ with
      | error e' => rfl
      | ok steps => exact iff_of_false nofun nofun
    · have hwhole : Longest Segments (passed ++ rest) (passed ++ []) := by
        rwa [List.append_nil, ← ht]
      exact hwhole.behind ⟨[], .nil⟩ fun v ⟨_, hv⟩ =>
        .inr ⟨_, hpath.append hv⟩

/-- A text is read as whole segments as far as possible, and what is then
reported of it is what is wrong there, in the words for that and in no
others. -/
theorem parse_diagnosis (t : Text) :
    ∃ passed rest, trim t = passed ++ rest
      ∧ Longest Segments (trim t) passed
      ∧ (passed = [] ∨ ∃ path, Written passed path
        ∧ parse t
          = (parseSteps ⟨byteLength passed, rest⟩).map (path ++ ·))
      ∧ ∀ e, (∃ e', parse t = .error e' ∧ e'.message = e.message)
          ↔ Faults passed rest e := by
  have hnone : Segments [] := .inl rfl
  obtain ⟨passed, h⟩ := Longest.exists_of_nil hnone (trim t)
  obtain ⟨rest, ht⟩ := h.within
  refine ⟨passed, rest, ht.symm, h, ?_, fun e => ?_⟩
  · exact h.fits.imp_right fun ⟨path, hpath⟩ =>
      ⟨path, hpath, parse_of_longest ht.symm hpath h⟩
  · rw [← parse_eq_error_iff h ht.symm]
    constructor
    · rintro ⟨e', hparse, hwords⟩
      rwa [← SyntaxError.message_injective hwords]
    · exact fun hparse => ⟨e, hparse, rfl⟩

-- The number is told of, not what comes behind it.
example : parse " é.b[ 9223372036854775808x ].".toList
    = .error .integerTooLarge := by
  decide +kernel

example : parse "é[0].".toList = .error (.identifierExpected 6) := by
  decide +kernel

end Path

end Stencil
