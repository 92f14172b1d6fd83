/-
Reading a printed document.

What is printed is read as what it was printed from: every text in quotes,
every whole number of 64 bits, and containers of these as long as no more
are open at a time than the reader allows. Floating-point numbers are left
out: the reader is not exact for them.

# The argument

Each reader is followed over what is printed for it, with any text
behind. A string needs nothing of that text, since the closing quote ends
it; a number needs that nothing in it could belong to the number
(`Ends`), and what stands behind an item or a member is such a text. The
containers are settled by induction on how many may still be open
(`value_print`), the lists inside them by induction on the list, for
which the members of an object are bound one after the other in the order
of their names (`insertEntry_last`).

Main statement: `read_print`.
-/
import Stencil.Json.Printer
import Stencil.Json.Reader

namespace Stencil.Json

open Text

-- ================================================ statement vocabulary

mutual

/-- There is no floating-point number in the document. -/
def Floatless : Json → Prop
  | float _ => False
  | array items => AllFloatless items
  | object members => MembersFloatless members
  | _ => True

/-- `Floatless` for each item of an array. -/
def AllFloatless : List Json → Prop
  | [] => True
  | item :: rest => Floatless item ∧ AllFloatless rest

/-- `Floatless` for the value of each member of an object. -/
def MembersFloatless : List (Text × Json) → Prop
  | [] => True
  | (_, value) :: rest => Floatless value ∧ MembersFloatless rest

end

mutual

/-- How many containers are open at a time, at most. -/
def depth : Json → Nat
  | array items => depthItems items + 1
  | object members => depthMembers members + 1
  | _ => 0

/-- The greatest `depth` of an item of an array. -/
def depthItems : List Json → Nat
  | [] => 0
  | item :: rest => max (depth item) (depthItems rest)

/-- The greatest `depth` of the value of a member of an object. -/
def depthMembers : List (Text × Json) → Nat
  | [] => 0
  | (_, value) :: rest => max (depth value) (depthMembers rest)

end

namespace Reader

/-- Nothing in front of a text could belong to a number before it. -/
def Ends (t : Text) : Prop :=
  ∀ c, t.head? = some c →
    c.isDigit = false ∧ c ≠ '.' ∧ c ≠ 'e' ∧ c ≠ 'E'

theorem ends_nil : Ends [] := fun _ h => nomatch h

theorem ends_cons {c : Char} (t : Text)
    (h : c.isDigit = false ∧ c ≠ '.' ∧ c ≠ 'e' ∧ c ≠ 'E') :
    Ends (c :: t) := by
  intro d hd
  cases hd
  exact h

-- ============================================================== strings

theorem hexDigit?_digitChar :
    ∀ n < 16, hexDigit? (Nat.digitChar n) = some n := by
  decide

/-- Four digits are read as their value. -/
theorem hexUnit_of_value {a b c d : Char} {n : Nat} (t : Text)
    (h : hexValue? a b c d = some n) :
    hexUnit (a :: b :: c :: d :: t) = .ok (n, t) := by
  have hlong : ¬ byteLength (a :: b :: c :: d :: t) < 4 := by
    have ha := a.utf8Size_pos
    have hb := b.utf8Size_pos
    have hc := c.utf8Size_pos
    have hd := d.utf8Size_pos
    simp only [byteLength_cons]
    omega
  rw [hexUnit, if_neg hlong]
  simp only [h]

/-- An escaped control is read by its code. -/
theorem escape_control {c : Char} (hc : c < ' ') (t : Text) :
    escape ('u' :: '0' :: '0' :: Nat.digitChar (c.toNat / 16)
        :: Nat.digitChar (c.toNat % 16) :: t)
      = .ok (c, t) := by
  have hlt : c.toNat < 32 := hc
  have hhigh := hexDigit?_digitChar (c.toNat / 16) (by omega)
  have hlow := hexDigit?_digitChar (c.toNat % 16) (by omega)
  have hzero : hexDigit? '0' = some 0 := by decide
  have hvalue : hexValue? '0' '0' (Nat.digitChar (c.toNat / 16))
      (Nat.digitChar (c.toNat % 16)) = some c.toNat := by
    simp only [hexValue?, hzero, hhigh, hlow, Option.bind_eq_bind,
      Option.bind_some]
    congr 1
    omega
  have htrailing : isTrailing c.toNat = false := by
    simp only [isTrailing, Bool.and_eq_false_iff, decide_eq_false_iff_not]
    omega
  have hleading : isLeading c.toNat = false := by
    simp only [isLeading, Bool.and_eq_false_iff, decide_eq_false_iff_not]
    omega
  rw [escape, hexUnit_of_value t hvalue]
  simp only [htrailing, hleading, Bool.false_eq_true, if_false,
    Char.ofNat_toNat]

/-- What is read of a string behind an escape. -/
theorem string_escape {t u s rest : Text} {c : Char}
    (hescape : escape t = .ok (c, u)) (h : string u = .ok (s, rest)) :
    string ('\\' :: t) = .ok (c :: s, rest) := by
  rw [string]
  split
  · next e he =>
    rw [hescape] at he
    cases he
  · next d u' he =>
    rw [hescape] at he
    cases he
    rw [h]

/-- A character is read as it is written between quotes. -/
theorem string_escaped {t s rest : Text} (c : Char)
    (h : string t = .ok (s, rest)) :
    string (escaped c ++ t) = .ok (c :: s, rest) := by
  unfold escaped
  -- the escapes of one letter
  iterate 7
    split
    · next hc => exact string_escape (by rw [hc]; rfl) h
  split
  · next hc => exact string_escape (escape_control hc t) h
  · next hquote hslash _ _ _ _ _ hplain =>
    show string (c :: t) = _
    rw [string.eq_4 c t hquote hslash, if_neg hplain, h]

/-- A string is read as it is written in quotes. -/
theorem string_quoted (s rest : Text) :
    string (s.flatMap escaped ++ '"' :: rest) = .ok (s, rest) := by
  induction s with
  | nil =>
    show string ('"' :: rest) = _
    rw [string]
  | cons c s ih =>
    rw [List.flatMap_cons, List.append_assoc]
    exact string_escaped c ih

-- ============================================================== numbers

/-- Digits are gathered to their end. -/
theorem gather_digits {digits rest : Text} {start : Nat}
    (hdigits : ∀ c ∈ digits, c.isDigit = true)
    (hfits : Nat.ofDigitChars 10 digits start < 0x10000000000000000)
    (hrest : Ends rest) :
    gather start (digits ++ rest)
      = (Nat.ofDigitChars 10 digits start, rest) := by
  induction digits generalizing start with
  | nil =>
    cases rest with
    | nil => rfl
    | cons c rest =>
      have hc := (hrest c rfl).1
      simp [gather, hc, Nat.ofDigitChars]
  | cons c digits ih =>
    have hc := hdigits c (List.mem_cons_self ..)
    rw [Nat.ofDigitChars_cons, Nat.mul_comm] at hfits ⊢
    have hlarger : start * 10 + (c.toNat - '0'.toNat)
        < 0x10000000000000000 := by
      have hpow : 0 < 10 ^ digits.length := Nat.pow_pos (by decide)
      have hle := Nat.le_mul_of_pos_left
        (start * 10 + (c.toNat - '0'.toNat)) hpow
      rw [Nat.ofDigitChars_eq_ofDigitChars_zero] at hfits
      omega
    rw [List.cons_append, gather]
    simp only [hc, hlarger, decide_true, Bool.and_self, if_true]
    exact ih (fun d hd => hdigits d (List.mem_cons_of_mem _ hd)) hfits

/-- A number is written with a digit in front, and only zero with a
zero. -/
theorem exists_digit (n : Nat) :
    ∃ c ds, ofNat n = c :: ds ∧ c.isDigit = true ∧ (c = '0' → n = 0) := by
  induction n using Nat.strongRecOn with
  | ind n ih =>
    by_cases hsmall : n < 10
    · have hdigit : ∀ m < 10, (Nat.digitChar m).isDigit = true
          ∧ (Nat.digitChar m = '0' → m = 0) := by decide
      exact ⟨Nat.digitChar n, [], Nat.toDigits_of_lt_base hsmall,
        hdigit n hsmall⟩
    · obtain ⟨c, ds, hcons, hc, hzero⟩ := ih (n / 10) (by omega)
      refine ⟨c, ds ++ [Nat.digitChar (n % 10)], ?_, hc, fun h => ?_⟩
      · rw [ofNat] at hcons ⊢
        rw [Nat.toDigits_of_base_le (by decide) (by omega), hcons]
        rfl
      · have hfront := hzero h
        omega

theorem startsWithDigit_of_ends {t : Text} (h : Ends t) :
    startsWithDigit t = false := by
  cases t with
  | nil => rfl
  | cons c t => exact (h c rfl).1

/-- The digits of a number are read as that number. -/
theorem number_digits {n : Nat} {rest : Text} (negative : Bool)
    (hn : n < 0x10000000000000000) (hrest : Ends rest) :
    number negative (ofNat n ++ rest) = .ok (whole negative n, rest) := by
  have hvalue : Nat.ofDigitChars 10 (Nat.toDigits 10 n) 0 = n :=
    Nat.ofDigitChars_toDigits (by decide) (by decide)
  have hdigits : ∀ c ∈ Nat.toDigits 10 n, c.isDigit = true :=
    fun c hc => Nat.isDigit_of_mem_toDigits (by decide) (by decide) hc
  have hgather := gather_digits hdigits (by rwa [hvalue]) hrest
  have hend := startsWithDigit_of_ends hrest
  obtain ⟨c, ds, hcons, hc, hzero⟩ := exists_digit n
  have hleading : ¬ (c = '0' ∧ startsWithDigit (ds ++ rest) = true) := by
    rintro ⟨h, hstarts⟩
    obtain rfl := hzero h
    injection hcons with _ hds
    rw [← hds, List.nil_append, hend] at hstarts
    cases hstarts
  rw [hvalue, ← ofNat, hcons] at hgather
  rw [hcons]
  rw [List.cons_append] at hgather ⊢
  rw [number, if_neg (by simp [hc]), if_neg hleading, hgather]
  simp only [hend, Bool.false_eq_true, if_false]
  split
  · next t => exact absurd rfl (hrest '.' rfl).2.1
  · next t => exact absurd rfl (hrest 'e' rfl).2.2.1
  · next t => exact absurd rfl (hrest 'E' rfl).2.2.2
  · rfl

-- ============================================================== scalars

theorem skipGap_cons {c : Char} (t : Text) (h : isGap c = false) :
    skipGap (c :: t) = c :: t := by
  simp [skipGap, h]

theorem isGap_of_isDigit {c : Char} (hc : c.isDigit = true) :
    isGap c = false := by
  cases h : isGap c with
  | false => rfl
  | true =>
    simp only [isGap, Bool.or_eq_true, beq_iff_eq] at h
    rcases h with ((rfl | rfl) | rfl) | rfl <;> exact absurd hc (by decide)

/-- What starts with a digit is read as a number. -/
theorem value_digit {c : Char} (n : Nat) (t : Text)
    (hc : c.isDigit = true) : value n (c :: t) = number false (c :: t) := by
  rw [value, skipGap_cons t (isGap_of_isDigit hc)]
  split
  case h_1 h => cases h
  case h_9 h =>
    cases h
    rw [if_pos hc]
  all_goals
    next h =>
      -- a character of its own, which is no digit
      injection h with h
      subst h
      exact absurd hc (by decide)

/-- A whole number of 64 bits is read as it is written. -/
theorem value_int {i : Int} {rest : Text} (n : Nat) (hi : isWhole i)
    (hrest : Ends rest) : value n (ofInt i ++ rest) = .ok (.int i, rest) := by
  simp only [isWhole, Bool.and_eq_true, decide_eq_true_eq] at hi
  cases i with
  | ofNat m =>
    have hm : m < 0x10000000000000000 := Int.ofNat_lt.1 hi.2
    have hnumber := number_digits false hm hrest
    obtain ⟨c, ds, hcons, hc, -⟩ := exists_digit m
    rw [hcons, List.cons_append] at hnumber
    rw [ofInt, hcons, List.cons_append, value_digit n _ hc, hnumber]
    rfl
  | negSucc m =>
    have hm : ¬ (m + 1 = 0 ∨ 0x8000000000000000 < m + 1) := by omega
    have hnumber := number_digits true (n := m + 1) (by omega) hrest
    rw [whole, if_pos rfl, if_neg hm] at hnumber
    show value n ('-' :: (ofNat (m + 1) ++ rest)) = _
    rw [value]
    exact hnumber

-- =========================================================== containers

/-- What an item starts with: not with white space, nor as a list
ends. -/
def Starts (t : Text) : Prop :=
  ∃ c rest, t = c :: rest ∧ isGap c = false ∧ c ≠ ']'

theorem starts_print {v : Json} (hv : v.Floatless) : Starts v.print := by
  cases v with
  | null => exact ⟨'n', _, rfl, rfl, by decide⟩
  | bool b =>
    cases b with
    | false => exact ⟨'f', _, rfl, rfl, by decide⟩
    | true => exact ⟨'t', _, rfl, rfl, by decide⟩
  | int i =>
    cases i with
    | ofNat n =>
      obtain ⟨c, ds, hcons, hc, -⟩ := exists_digit n
      refine ⟨c, ds, hcons, isGap_of_isDigit hc, ?_⟩
      rintro rfl
      exact absurd hc (by decide)
    | negSucc n => exact ⟨'-', _, rfl, rfl, by decide⟩
  | float x => cases hv
  | string s => exact ⟨'"', _, rfl, rfl, by decide⟩
  | array items => exact ⟨'[', _, rfl, rfl, by decide⟩
  | object members => exact ⟨'{', _, rfl, rfl, by decide⟩

/-- What stands in front of the next part: a comma, unless it is the
`first`. -/
def comma (first : Bool) : Text := if first then [] else [',']

/-- Parts with commas between them, and in front unless they are the
`first` ones. -/
def separated (first : Bool) (parts : List Text) : Text :=
  if first then joinWith "," parts else parts.flatMap (',' :: ·)

theorem separated_nil (first : Bool) : separated first [] = [] := by
  cases first <;> rfl

theorem separated_cons (first : Bool) (part : Text) (parts : List Text) :
    separated first (part :: parts)
      = comma first ++ (part ++ separated false parts) := by
  cases first with
  | false => rfl
  | true =>
    show joinWith "," (part :: parts) = part ++ parts.flatMap (',' :: ·)
    induction parts generalizing part with
    | nil => simp [joinWith]
    | cons next parts ih =>
      rw [joinWith, List.intercalate_cons_cons, ← joinWith, ih,
        List.flatMap_cons, List.append_assoc]
      rfl

/-- Behind an item or a member comes a comma or the end. -/
theorem ends_separated {close : Char} (parts : List Text) (rest : Text)
    (h : close = ']' ∨ close = '}') :
    Ends (separated false parts ++ close :: rest) := by
  cases parts with
  | nil =>
    refine ends_cons rest ?_
    rcases h with rfl | rfl <;> decide
  | cons part parts => exact ends_cons _ (by decide)

theorem Starts.length_pos {t : Text} (h : Starts t) : 0 < t.length := by
  obtain ⟨c, u, rfl, -⟩ := h
  exact Nat.succ_pos _

theorem Starts.append {t : Text} (h : Starts t) (u : Text) :
    Starts (t ++ u) := by
  obtain ⟨c, t, rfl, hgap, hclose⟩ := h
  exact ⟨c, t ++ u, rfl, hgap, hclose⟩

/-- There is nothing to pass over in front of an item. -/
theorem Starts.skipGap_eq {t : Text} (h : Starts t) : skipGap t = t := by
  obtain ⟨c, t, rfl, hgap, -⟩ := h
  exact skipGap_cons t hgap

section Lists

variable {α σ : Type} {t start u after : Text} (first : Bool)

/-- Behind a comma, the next item comes past the white space. -/
theorem nextItem_of_skipGap (h : Starts start) (hskip : skipGap t = start) :
    nextItem first (comma first ++ t) = .ok (true, start) := by
  obtain ⟨c, rest, rfl, -, hclose⟩ := h
  cases first with
  | true =>
    show nextItem true t = _
    rw [nextItem, hskip]
    split
    · next h => cases h
    · next h =>
      injection h with h
      exact absurd h hclose
    · next h =>
      cases h
      rfl
  | false =>
    have hcomma : skipGap (',' :: t) = ',' :: t := rfl
    show nextItem false (',' :: t) = _
    rw [nextItem, hcomma]
    split
    · next h => cases h
    · next h => cases h
    · next h =>
      cases h
      rw [if_neg Bool.false_ne_true, if_pos rfl, hskip]
      split
      · next h => cases h
      · next h =>
        injection h with h
        exact absurd h hclose
      · rfl

theorem nextItem_comma (h : Starts t) :
    nextItem first (comma first ++ t) = .ok (true, t) :=
  nextItem_of_skipGap first h h.skipGap_eq

/-- A list goes on with the items behind the next one. -/
theorem items_of_next {item : Text → Reading α} {x : α} {xs : List α}
    (hnext : nextItem first t = .ok (true, start))
    (hitem : item start = .ok (x, u)) (hlt : u.length < t.length)
    (hrest : items item false u = .ok (xs, after)) :
    items item first t = .ok (x :: xs, after) := by
  rw [items, hnext]
  simp only [hitem, if_pos hlt, hrest]

/-- An object goes on with the members behind the next one. -/
theorem members_of_next {member : σ → Text → Text → Reading σ}
    {name : Text} {state state' end' : σ}
    (hnext : nextMember first t = .ok (some name, start))
    (hmember : member state name start = .ok (state', u))
    (hlt : u.length < t.length)
    (hrest : members member false state' u = .ok (end', after)) :
    members member first state t = .ok (end', after) := by
  rw [members, hnext]
  simp only [hmember, if_pos hlt, hrest]

theorem quote_append (name t : Text) :
    quote name ++ t = '"' :: (name.flatMap escaped ++ '"' :: t) := by
  simp [quote]

/-- Behind a comma, the next name comes past the white space. -/
theorem nextMember_of_skipGap (hskip : skipGap t = '"' :: start) :
    nextMember first (comma first ++ t) = nextMember.key start := by
  cases first with
  | true =>
    show nextMember true t = _
    rw [nextMember, hskip]
    rfl
  | false =>
    have hcomma : skipGap (',' :: t) = ',' :: t := rfl
    show nextMember false (',' :: t) = _
    rw [nextMember, hcomma]
    split
    · next h => cases h
    · next h => cases h
    · next h =>
      cases h
      rw [if_neg Bool.false_ne_true, if_pos rfl, hskip]
      rfl

/-- The name of a member is read as it is written. -/
theorem nextMember_comma (name t : Text) :
    nextMember first (comma first ++ (quote name ++ t))
      = .ok (some name, t) := by
  rw [quote_append, nextMember_of_skipGap first rfl, nextMember.key,
    string_quoted]

/-- A member is read as it is written, and the object goes on behind
it. -/
theorem members_of_member {member : σ → Text → Text → Reading σ}
    {state state' end' : σ} {name text rest : Text} {parts : List Text}
    (hmember : member state name
        (':' :: (text ++ (separated false parts ++ '}' :: rest)))
      = .ok (state', separated false parts ++ '}' :: rest))
    (hrest : members member false state' (separated false parts ++ '}' :: rest)
      = .ok (end', after)) :
    members member first state
        (separated first ((quote name ++ [':'] ++ text) :: parts)
          ++ '}' :: rest)
      = .ok (end', after) := by
  have hpart : quote name ++ [':'] ++ text
        ++ (separated false parts ++ '}' :: rest)
      = quote name
        ++ ':' :: (text ++ (separated false parts ++ '}' :: rest)) := by simp
  rw [separated_cons, List.append_assoc, List.append_assoc, hpart]
  refine members_of_next first (nextMember_comma first name _) hmember ?_
    hrest
  simp only [List.length_append, List.length_cons]
  omega

/-- Behind the last member comes the end. -/
theorem members_nil {member : σ → Text → Text → Reading σ} (state : σ)
    (rest : Text) :
    members member first state (separated first [] ++ '}' :: rest)
      = .ok (state, rest) := by
  rw [separated_nil, members]
  rfl

end Lists

section Contents

variable {α : Type} {read : Text → Reading α} {write : α → Text}

/-- Items are read to the end of the list, if each is read as it is
written. -/
theorem items_separated (first : Bool) {xs : List α} (rest : Text)
    (hstarts : ∀ x ∈ xs, Starts (write x))
    (hread : ∀ x ∈ xs, ∀ after, Ends after →
      read (write x ++ after) = .ok (x, after)) :
    items read first (separated first (xs.map write) ++ ']' :: rest)
      = .ok (xs, rest) := by
  -- the first item only differs from the others in what is in front of it
  induction xs generalizing first with
  | nil =>
    rw [List.map_nil, separated_nil, items]
    rfl
  | cons x xs ih =>
    obtain ⟨hstart, hstarts⟩ := List.forall_mem_cons.1 hstarts
    obtain ⟨hfirst, hread⟩ := List.forall_mem_cons.1 hread
    obtain ⟨c, t, ht, hgap, hclose⟩ := hstart
    rw [List.map_cons, separated_cons, List.append_assoc, List.append_assoc]
    refine items_of_next first
      (nextItem_comma first ⟨c, _, by rw [ht]; rfl, hgap, hclose⟩)
      (hfirst _ (ends_separated (xs.map write) rest (.inl rfl))) ?_
      (ih false hstarts hread)
    simp only [ht, List.length_append, List.length_cons]
    omega

/-- Members are read to the end of the object and bound one after the
other, if the value of each is read as it is written. -/
theorem members_separated {σ : Type} (bind : σ → Text → α → σ)
    (first : Bool) (state : σ) {ms : List (Text × α)} (rest : Text)
    (hread : ∀ m ∈ ms, ∀ after, Ends after →
      read (write m.2 ++ after) = .ok (m.2, after)) :
    members (entry bind read) first state
        (separated first (ms.map fun m => quote m.1 ++ [':'] ++ write m.2)
          ++ '}' :: rest)
      = .ok (ms.foldl (fun state m => bind state m.1 m.2) state, rest) := by
  induction ms generalizing first state with
  | nil => exact members_nil first state rest
  | cons m ms ih =>
    obtain ⟨hfirst, hread⟩ := List.forall_mem_cons.1 hread
    refine members_of_member first ?_ (ih false _ hread)
    have hvalue := hfirst _ (ends_separated
      (ms.map fun m => quote m.1 ++ [':'] ++ write m.2) rest (.inr rfl))
    have hcolon : ∀ t : Text, colon (':' :: t) = .ok t := fun _ => rfl
    rw [entry, hcolon]
    simp only [hvalue]

end Contents

-- ============================================================ documents

theorem printItems_eq_map (xs : List Json) : printItems xs = xs.map print := by
  induction xs with
  | nil => rfl
  | cons x xs ih => rw [printItems, ih, List.map_cons]

theorem printMembers_eq_map (ms : List (Text × Json)) :
    printMembers ms = ms.map fun m => quote m.1 ++ [':'] ++ m.2.print := by
  induction ms with
  | nil => rfl
  | cons m ms ih => rw [printMembers, ih, List.map_cons]

/-- Documents that nest no deeper than `n` are read as they are written,
where at most `n` containers may be open. -/
def ReadsPrinted (n : Nat) : Prop :=
  ∀ (v : Json) (rest : Text), v.WellFormed → v.Floatless → v.depth ≤ n →
    Ends rest → value n (v.print ++ rest) = .ok (v, rest)

section Documents

variable {n : Nat} (ih : ReadsPrinted n) (rest : Text)
include ih

/-- Items are read to the end of the list. -/
theorem items_printed {xs : List Json} (hwf : AllWellFormed xs)
    (hfl : AllFloatless xs) (hdepth : depthItems xs ≤ n) :
    items (value n) true (separated true (printItems xs) ++ ']' :: rest)
      = .ok (xs, rest) := by
  have hall : ∀ x ∈ xs, x.WellFormed ∧ x.Floatless ∧ x.depth ≤ n := by
    induction xs with
    | nil => exact nofun
    | cons x xs ihxs =>
      simp only [AllWellFormed] at hwf
      simp only [AllFloatless] at hfl
      simp only [depthItems, Nat.max_le] at hdepth
      exact List.forall_mem_cons.2
        ⟨⟨hwf.1, hfl.1, hdepth.1⟩, ihxs hwf.2 hfl.2 hdepth.2⟩
  rw [printItems_eq_map]
  refine items_separated true rest (fun x hx => starts_print (hall x hx).2.1)
    fun x hx after hafter => ?_
  obtain ⟨hwf, hfl, hdepth⟩ := hall x hx
  exact ih x after hwf hfl hdepth hafter

/-- Members are read to the end of the object. -/
theorem members_printed {ms : List (Text × Json)} (hasc : Ascending ms)
    (hwf : MembersWellFormed ms) (hfl : MembersFloatless ms)
    (hdepth : depthMembers ms ≤ n) :
    members (entry bindMember (value n)) true []
        (separated true (printMembers ms) ++ '}' :: rest)
      = .ok (ms, rest) := by
  have hall : ∀ m ∈ ms, m.2.WellFormed ∧ m.2.Floatless ∧ m.2.depth ≤ n := by
    clear hasc
    induction ms with
    | nil => exact nofun
    | cons m ms ihms =>
      simp only [MembersWellFormed] at hwf
      simp only [MembersFloatless] at hfl
      simp only [depthMembers, Nat.max_le] at hdepth
      exact List.forall_mem_cons.2
        ⟨⟨hwf.1, hfl.1, hdepth.1⟩, ihms hwf.2 hfl.2 hdepth.2⟩
  have hread : ∀ m ∈ ms, ∀ after, Ends after →
      value n (m.2.print ++ after) = .ok (m.2, after) := by
    intro m hm after hafter
    obtain ⟨hwf, hfl, hdepth⟩ := hall m hm
    exact ih m.2 after hwf hfl hdepth hafter
  have hbound : ms.foldl (fun state m => bindMember state m.1 m.2) [] = ms :=
    @foldl_insertEntry _ [] ms hasc
  rw [printMembers_eq_map, members_separated bindMember true [] rest hread,
    hbound]

end Documents

/-- A document that nests no deeper than containers may be open is read
as it is printed. -/
theorem value_print (n : Nat) : ReadsPrinted n := by
  induction n using Nat.strongRecOn with
  | ind n ih =>
    intro v rest hwf hfl hdepth hends
    cases v with
    | null =>
      show value n ('n' :: 'u' :: 'l' :: 'l' :: rest) = _
      rw [value]
      rfl
    | bool b =>
      cases b with
      | false =>
        show value n ('f' :: 'a' :: 'l' :: 's' :: 'e' :: rest) = _
        rw [value]
        rfl
      | true =>
        show value n ('t' :: 'r' :: 'u' :: 'e' :: rest) = _
        rw [value]
        rfl
    | int i => exact value_int n hwf hends
    | float x => cases hfl
    | string s =>
      show value n (quote s ++ rest) = _
      rw [quote_append, value]
      show (string (s.flatMap escaped ++ '"' :: rest)).map _ = _
      rw [string_quoted]
      rfl
    | array xs =>
      simp only [WellFormed] at hwf
      simp only [Floatless] at hfl
      obtain _ | m := n
      · cases hdepth
      · have hread := items_printed (ih m (Nat.lt_succ_self m)) rest
          hwf hfl (Nat.le_of_succ_le_succ hdepth)
        show value (m + 1)
          ('[' :: (joinWith "," (printItems xs) ++ [']']) ++ rest) = _
        rw [List.cons_append, List.append_assoc, value]
        show (items (value m) true
          (separated true (printItems xs) ++ ']' :: rest)).map _ = _
        rw [hread]
        rfl
    | object ms =>
      simp only [WellFormed] at hwf
      simp only [Floatless] at hfl
      obtain _ | m := n
      · cases hdepth
      · have hread := members_printed (ih m (Nat.lt_succ_self m)) rest
          hwf.1 hwf.2 hfl (Nat.le_of_succ_le_succ hdepth)
        show value (m + 1)
          ('{' :: (joinWith "," (printMembers ms) ++ ['}']) ++ rest) = _
        rw [List.cons_append, List.append_assoc, value]
        show (members (entry bindMember (value m)) true []
          (separated true (printMembers ms) ++ '}' :: rest)).map _ = _
        rw [hread]
        rfl

end Reader

/-- A document that nests no deeper than the reader allows, and has no
floating-point number, is read as it is printed. -/
theorem read_print {v : Json} (hwf : v.WellFormed) (hfl : v.Floatless)
    (hdepth : v.depth ≤ Reader.maxDepth) : read v.print = .ok v := by
  have hread := Reader.value_print Reader.maxDepth v [] hwf hfl hdepth
    Reader.ends_nil
  rw [List.append_nil] at hread
  rw [read, Reader.whole?, hread]
  rfl

end Stencil.Json
