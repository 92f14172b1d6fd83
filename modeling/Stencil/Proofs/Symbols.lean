/-
A template as a row of characters and placeholders.

Segments say how literal text is divided and where everything stands, and
a rendering uses neither. `symbols` forgets both: a character of literal
text is one symbol, and a placeholder is one. What is left has laws of
its own, in which no position and no neighbour of a literal occurs.

# The laws

A text that starts like no placeholder is its first character and the
symbols of the rest (`symbols_cons`), whatever literal the scan makes of
that character. From there plain text goes over to symbols one by one,
as long as no `${` comes about at its end (`symbols_plain_append`). A
text that starts with a placeholder is that and the symbols of the rest
(`symbols_placeholder_append`), and one that starts like a placeholder
that never ends is characters throughout (`symbols_unterminated`).

Main statement: `interpret_eq_foldl_symbols`, that a template is rendered
by going through its symbols.
-/
import Stencil.Proofs.Interpreter

namespace Stencil

open Text Segment

-- ================================================ statement vocabulary

/-- A part of a template that is not divided further. -/
inductive Symbol where
  /-- A character to be copied. -/
  | char (c : Char)
  /-- A placeholder: all of it, and what stands between the braces. -/
  | placeholder (raw expression : Text)

/-- What a placeholder is written as, with what stands in it. -/
abbrev Mark := Text × Text

/-- The placeholder that a symbol is. -/
def Symbol.mark? : Symbol → Option Mark
  | char _ => none
  | placeholder raw expression => some (raw, expression)

namespace Segment

/-- The placeholder that a segment is. -/
def mark? : Segment → Option Mark
  | literal _ => none
  | placeholder raw expression _ => some (raw, expression)

/-- The symbols of a segment. -/
def symbols : Segment → List Symbol
  | literal text => text.map .char
  | placeholder raw expression _ => [.placeholder raw expression]

end Segment

/-- The placeholders of a template, from left to right. -/
def marks (template : Text) : List Mark := (scan template).filterMap mark?

/-- The symbols of a template. -/
def symbols (template : Text) : List Symbol :=
  (scan template).flatMap Segment.symbols

/-- No placeholder starts across the joint of two texts. -/
def Joins (a b : Text) : Prop := a.getLast? = some '$' → b.head? ≠ some '{'

-- ============================================================ the laws

/-- Where a text stands makes no difference to its symbols. -/
theorem flatMap_symbols_scanFrom (offset : Nat) (t : Text) :
    (scanFrom offset t).flatMap Segment.symbols = symbols t := by
  suffices general : ∀ offset', (scanFrom offset t).flatMap Segment.symbols
      = (scanFrom offset' t).flatMap Segment.symbols from general 0
  induction hn : t.length using Nat.strongRecOn generalizing offset t with
  | ind n ih =>
    subst hn
    intro offset'
    rcases text_cases t with
      rfl | ⟨text, rest, rfl, hne, htext, hrest⟩
        | ⟨body, rest, hbody, rfl⟩ | htail
    · rw [scanFrom_nil, scanFrom_nil]
    · have hlength : 0 < text.length := List.length_pos_iff.2 hne
      rw [scanFrom_plain_append _ hne htext hrest,
        scanFrom_plain_append _ hne htext hrest, List.flatMap_cons,
        List.flatMap_cons]
      exact congrArg _ (ih rest.length (by simp; omega) _ rest rfl _)
    · rw [scanFrom_placeholder_append _ rest hbody,
        scanFrom_placeholder_append _ rest hbody, List.flatMap_cons,
        List.flatMap_cons]
      exact congrArg _ (ih rest.length (by simp; omega) _ rest rfl _)
    · rw [scanFrom_unterminated _ htail, scanFrom_unterminated _ htail]

theorem symbols_nil : symbols [] = [] := by
  rw [symbols, scan, scanFrom_nil]
  rfl

/-- A placeholder in front is one symbol. -/
theorem symbols_placeholder_append {body : Text} (rest : Text)
    (hbody : '}' ∉ body) :
    symbols (opening ++ body ++ ['}'] ++ rest)
      = .placeholder (opening ++ body ++ ['}']) (trim body)
        :: symbols rest := by
  rw [symbols, scan, scanFrom_placeholder_append 0 rest hbody,
    List.flatMap_cons, flatMap_symbols_scanFrom]
  rfl

/-- A `${` that no `}` follows is characters up to the end. -/
theorem symbols_unterminated {t : Text} (h : Unterminated t) :
    symbols t = t.map .char := by
  rw [symbols, scan, scanFrom_unterminated 0 h, List.flatMap_cons,
    List.flatMap_nil, List.append_nil]
  rfl

/-- Plain text in front of a placeholder, or of nothing. -/
theorem symbols_plain {text rest : Text} (htext : Plain text)
    (hrest : rest = [] ∨ opening <+: rest) :
    symbols (text ++ rest) = text.map .char ++ symbols rest := by
  by_cases hne : text = []
  · rw [hne]
    rfl
  · rw [symbols, scan, scanFrom_plain_append 0 hne htext hrest,
      List.flatMap_cons, flatMap_symbols_scanFrom]
    rfl

/-- A text that starts like no placeholder starts with a character. -/
theorem symbols_cons {c : Char} {t : Text} (h : ¬ opening <+: c :: t) :
    symbols (c :: t) = .char c :: symbols t := by
  have happend := splitOpen_append t
  have hplain := splitOpen_fst_plain t
  have hrest := splitOpen_snd t
  generalize (splitOpen t).1 = text at happend hplain
  generalize (splitOpen t).2 = rest at happend hrest
  subst happend
  -- the literal that `c` belongs to ends where that of `t` does
  have hfront : Plain (c :: text) := by
    intro hin
    rcases List.infix_cons_iff.1 hin with hfront | hin
    · exact h (hfront.trans (List.prefix_append (c :: text) rest))
    · exact hplain hin
  have hwhole := symbols_plain hfront hrest
  rw [List.cons_append] at hwhole
  rw [hwhole, symbols_plain hplain hrest]
  rfl

/-- Plain text in front goes over to symbols. -/
theorem symbols_plain_append {a b : Text} (ha : Plain a)
    (hjoint : Joins a b) :
    symbols (a ++ b) = a.map .char ++ symbols b := by
  induction a with
  | nil => rfl
  | cons c a ih =>
    have hplain : Plain a := fun h => ha (List.infix_cons h)
    have hopen : ¬ opening <+: c :: (a ++ b) := by
      rintro ⟨tail, h⟩
      injection h with hc htail
      cases a with
      | nil =>
        subst hc
        refine hjoint rfl ?_
        rw [← show '{' :: tail = b from htail]
        rfl
      | cons d a =>
        injection htail with hd
        subst hc hd
        exact ha ⟨[], a, rfl⟩
    have hjoint' : Joins a b := by
      intro hlast
      refine hjoint ?_
      rw [List.getLast?_cons, hlast]
      rfl
    rw [List.cons_append, symbols_cons hopen, ih hplain hjoint']
    rfl

/-- A text without `$` has no part in any placeholder. -/
theorem symbols_append_of_no_dollar {a : Text} (b : Text) (ha : '$' ∉ a) :
    symbols (a ++ b) = a.map .char ++ symbols b := by
  refine symbols_plain_append (fun h => ha (h.subset (by simp))) ?_
  intro hlast
  exact absurd (List.mem_of_getLast? hlast) ha

-- ====================================================== what they keep

theorem filterMap_mark?_map_char (t : Text) :
    (t.map Symbol.char).filterMap Symbol.mark? = [] := by
  induction t with
  | nil => rfl
  | cons c t ih => exact ih

/-- The symbols of a template have its placeholders. -/
theorem filterMap_mark?_symbols (template : Text) :
    (symbols template).filterMap Symbol.mark? = marks template := by
  rw [symbols, marks]
  induction scan template with
  | nil => rfl
  | cons segment rest ih =>
    rw [List.flatMap_cons, List.filterMap_append, ih]
    cases segment with
    | literal text =>
      rw [Segment.symbols, filterMap_mark?_map_char]
      rfl
    | placeholder raw expression span => rfl

namespace Interpreter

/-- Goes through one symbol of a template. -/
def stepSymbol (ctx : Context) (blank : Bool) (sofar : Transcript) :
    Symbol → Transcript
  | .char c => { sofar with text := sofar.text ++ [c] }
  | .placeholder raw expression =>
    tryAll ctx blank raw expression [] sofar (Expression.parse expression)

variable {ctx : Context} {blank : Bool}

theorem foldl_stepSymbol_map_char (t : Text) (sofar : Transcript) :
    (t.map Symbol.char).foldl (stepSymbol ctx blank) sofar
      = { sofar with text := sofar.text ++ t } := by
  induction t generalizing sofar with
  | nil => rw [List.append_nil]; rfl
  | cons c t ih =>
    rw [List.map_cons, List.foldl_cons, ih]
    simp only [stepSymbol, List.append_assoc, List.singleton_append]

/-- A segment is gone through symbol by symbol. -/
theorem foldl_stepSymbol_symbols (segment : Segment) (sofar : Transcript) :
    segment.symbols.foldl (stepSymbol ctx blank) sofar
      = step ctx blank sofar segment := by
  cases segment with
  | literal text => exact foldl_stepSymbol_map_char text sofar
  | placeholder raw expression span => rfl

/-- A template is gone through symbol by symbol. -/
theorem interpret_eq_foldl_symbols (turns : Turns) (template : Text) :
    interpret ctx blank turns template
      = (symbols template).foldl (stepSymbol ctx blank)
          ⟨[], [], [], turns⟩ := by
  rw [interpret, symbols, List.foldl_flatMap]
  simp only [foldl_stepSymbol_symbols]

end Interpreter

end Stencil
