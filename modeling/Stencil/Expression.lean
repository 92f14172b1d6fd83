/-
Expressions: what stands between the braces of a placeholder.

An expression is a chain of alternatives with `??` between them, to be
tried from left to right. An alternative is a path, or `alias:` or
`script:` with a name. Reading an expression never fails as a whole: an
alternative that is none of these is kept as `invalid` with the reason,
and fails when it is tried.
-/
import Stencil.Path.Parser

namespace Stencil

open Text

/-- One of the ways in which a placeholder may get its value. -/
inductive Alternative where
  /-- The value at a path. -/
  | path (path : Path)
  /-- The value at the path that an alias stands for. -/
  | aliasRef (name : Text)
  /-- What a script returns. -/
  | scriptRef (name : Text)
  /-- Nothing: this text is no alternative, and why. -/
  | invalid (text : Text) (why : SyntaxError)
deriving DecidableEq, Repr

/-- An expression: the alternatives in the order in which to try them. -/
abbrev Expression := List Alternative

namespace Alternative

/-- What marks a reference to a script. -/
def scriptMark : Text := "script:"

/-- What marks a reference to an alias. -/
def aliasMark : Text := "alias:"

/-- The reference `make` to a name, or what `text` is when the name is no
identifier. -/
def reference (make : Text → Alternative) (text name : Text) : Alternative :=
  if isIdentifier name then make name
  else .invalid text (.badReference name)

/-- Reads an alternative, white space around it left out. -/
def parse (t : Text) : Alternative :=
  let text := trim t
  if scriptMark.isPrefixOf text then
    reference .scriptRef text (trim (text.drop scriptMark.length))
  else if aliasMark.isPrefixOf text then
    reference .aliasRef text (trim (text.drop aliasMark.length))
  else
    match Path.parse text with
    | .ok p => .path p
    | .error e => .invalid text e

/-- How an alternative is written. -/
def print : Alternative → Text
  | .path p => p.print
  | .aliasRef name => aliasMark ++ name
  | .scriptRef name => scriptMark ++ name
  | .invalid text _ => text

/-- A reference is made to an identifier and to nothing else. -/
theorem reference_cases (make : Text → Alternative) (text name : Text) :
    (isIdentifier name = true ∧ reference make text name = make name)
      ∨ reference make text name = .invalid text (.badReference name) := by
  rw [reference]
  by_cases hname : isIdentifier name = true
  · exact .inl ⟨hname, if_pos hname⟩
  · exact .inr (if_neg hname)

/-- Everything that a text can be read as. -/
theorem parse_cases (t : Text) :
    (∃ name, isIdentifier name = true ∧ parse t = .scriptRef name)
      ∨ (∃ name, isIdentifier name = true ∧ parse t = .aliasRef name)
      ∨ (∃ p, Path.parse (trim t) = .ok p ∧ parse t = .path p)
      ∨ ∃ e, parse t = .invalid (trim t) e := by
  simp only [parse]
  by_cases hscript : scriptMark.isPrefixOf (trim t) = true
  · rw [if_pos hscript]
    rcases reference_cases .scriptRef (trim t)
        (trim ((trim t).drop scriptMark.length)) with ⟨hname, h⟩ | h
    · exact .inl ⟨_, hname, h⟩
    · exact .inr (.inr (.inr ⟨_, h⟩))
  · rw [if_neg hscript]
    by_cases halias : aliasMark.isPrefixOf (trim t) = true
    · rw [if_pos halias]
      rcases reference_cases .aliasRef (trim t)
          (trim ((trim t).drop aliasMark.length)) with ⟨hname, h⟩ | h
      · exact .inr (.inl ⟨_, hname, h⟩)
      · exact .inr (.inr (.inr ⟨_, h⟩))
    · rw [if_neg halias]
      cases hpath : Path.parse (trim t) with
      | ok p => exact .inr (.inr (.inl ⟨p, rfl, rfl⟩))
      | error e => exact .inr (.inr (.inr ⟨e, rfl⟩))

end Alternative

namespace Expression

/-- Cuts a text at each `??`, of which the leftmost counts where some
overlap. -/
def cut : Text → List Text
  | [] => [[]]
  | '?' :: '?' :: t => [] :: cut t
  | c :: t =>
    match cut t with
    | [] => [[c]]
    | piece :: pieces => (c :: piece) :: pieces

/-- Reads an expression. -/
def parse (t : Text) : Expression := (cut t).map Alternative.parse

/-- How an expression is written. -/
def print (e : Expression) : Text :=
  joinWith "??" (e.map Alternative.print)

/-- A text has one piece more than it has cuts, so never none. -/
theorem cut_ne_nil (t : Text) : cut t ≠ [] := by
  fun_induction cut t <;> simp

end Expression

end Stencil
