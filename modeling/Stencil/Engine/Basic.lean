/-
Engines: a template with the tables that its placeholders refer to.

The template is taken apart once, when the engine is made. A piece knows
by byte positions which part of the template it is, and a placeholder has
its expression read already. Aliases and scripts can be registered at any
time; what an alias stands for is not looked at until it is used.
-/
import Stencil.Config.Basic
import Stencil.Expression
import Stencil.Script
import Stencil.Segment

namespace Stencil

open Text

/-- A part of a template, ready for rendering. -/
inductive Piece where
  /-- Text to be copied, by its place in the template. -/
  | literal (span : Span)
  /-- A placeholder: its place, its text between the braces, and what
  that text means. -/
  | placeholder (span : Span) (text : Text) (expression : Expression)
deriving DecidableEq

namespace Piece

/-- The part of the template that a piece is. -/
def span : Piece → Span
  | literal span => span
  | placeholder span _ _ => span

/-- The pieces for segments of which the first starts at `offset`. -/
def ofSegments (offset : Nat) : List Segment → List Piece
  | [] => []
  | .literal text :: rest =>
    let span := ⟨offset, offset + byteLength text⟩
    .literal span :: ofSegments span.stop rest
  | .placeholder _ expression span :: rest =>
    .placeholder span expression (Expression.parse expression)
      :: ofSegments span.stop rest

/-- The pieces of a template. -/
def compile (template : Text) : List Piece :=
  ofSegments 0 (Segment.scan template)

/-- The text between the braces, if the piece is a placeholder. -/
def text? : Piece → Option Text
  | literal _ => none
  | placeholder _ text _ => some text

end Piece

/-- A template with its tables. The pieces are those of the template. -/
structure Engine where
  source : Text
  pieces : List Piece := Piece.compile source
  /-- The fields that hold JSON in a string. -/
  jsonFields : List Text
  /-- The paths that aliases stand for. -/
  aliases : Table Text
  scripts : Registry
  /-- Whether a placeholder without a value is left out; otherwise it
  stays as it is written. -/
  blankFailures : Bool
  /-- The failures of the last rendering. -/
  failures : List Failure
  compiled : pieces = Piece.compile source := by rfl

namespace Engine

/-- The engine for a template with these fields that hold JSON, and with
no aliases and scripts. -/
def withJsonFields (template : Text) (jsonFields : List Text) : Engine :=
  { source := template
    jsonFields := jsonFields
    aliases := ∅
    scripts := .empty
    blankFailures := true
    failures := [] }

/-- The engine for a template alone. -/
def new (template : Text) : Engine := withJsonFields template []

/-- Lets a name, which has to be one that a template can refer to, stand
for a path. -/
def registerAlias (e : Engine) (name path : Text) :
    Except TemplateError Engine :=
  if isIdentifier name then
    .ok { e with aliases := e.aliases.insert name path }
  else .error (.invalidAlias name)

/-- Lets names stand for paths, one after the other, up to the first that
is refused. -/
def registerAliases (e : Engine) :
    List (Text × Text) → Except TemplateError Engine
  | [] => .ok e
  | (name, path) :: more =>
    match e.registerAlias name path with
    | .ok e => e.registerAliases more
    | .error refused => .error refused

/-- The engine for a template with what a configuration says. -/
def withConfig (template : Text) (config : Config) :
    Except TemplateError Engine :=
  let e := withJsonFields template config.jsonFields
  { e with blankFailures := config.blankFailures }.registerAliases
    config.aliases.entries

/-- Makes a new script and gives it a name. -/
def registerScript (e : Engine) (turns : Turns) (name : Text)
    (values : List Returned) : Except TemplateError (Engine × Turns) :=
  match e.scripts.register turns name values with
  | .ok (scripts, turns) => .ok ({ e with scripts := scripts }, turns)
  | .error refused => .error refused

/-- Names stand for paths if each is one that a template can refer to. -/
theorem registerAliases_eq_ok_iff {e e' : Engine}
    {aliases : List (Text × Text)} :
    e.registerAliases aliases = .ok e'
      ↔ (∀ entry ∈ aliases, isIdentifier entry.1 = true)
        ∧ e' = { e with aliases := e.aliases.insertAll aliases } := by
  induction aliases generalizing e with
  | nil =>
    constructor
    · intro h
      cases h
      exact ⟨List.forall_mem_nil _, rfl⟩
    · rintro ⟨-, rfl⟩
      rfl
  | cons entry more ih =>
    obtain ⟨name, path⟩ := entry
    rw [registerAliases, registerAlias, List.forall_mem_cons]
    by_cases hname : isIdentifier name = true
    · rw [if_pos hname]
      exact ih.trans ⟨fun h => ⟨⟨hname, h.1⟩, h.2⟩, fun h => ⟨h.1.2, h.2⟩⟩
    · rw [if_neg hname]
      constructor
      · intro h
        cases h
      · intro h
        exact absurd h.1.1 hname

/-- The first name that no template can refer to is refused. -/
theorem registerAliases_of_find? (e : Engine) {aliases : List (Text × Text)}
    {entry : Text × Text}
    (h : aliases.find? (fun entry => !isIdentifier entry.1) = some entry) :
    e.registerAliases aliases = .error (.invalidAlias entry.1) := by
  induction aliases generalizing e with
  | nil => cases h
  | cons first more ih =>
    obtain ⟨name, path⟩ := first
    rw [registerAliases, registerAlias]
    by_cases hname : isIdentifier name = true
    · rw [List.find?_cons_of_neg (by simp [hname])] at h
      rw [if_pos hname]
      exact ih _ h
    · rw [List.find?_cons_of_pos (by simpa using hname)] at h
      cases h
      rw [if_neg hname]

/-- A configuration is taken if all its aliases have names that a template
can refer to; otherwise the least of the names that have to be refused
is. -/
theorem withConfig_cases (template : Text) (config : Config) :
    (∀ name, (config.aliases.find? name).isSome = true →
        isIdentifier name = true)
      ∧ withConfig template config
        = .ok { withJsonFields template config.jsonFields with
            blankFailures := config.blankFailures
            aliases := config.aliases }
    ∨ ∃ name, (config.aliases.find? name).isSome = true
      ∧ isIdentifier name = false
      ∧ (∀ other, (config.aliases.find? other).isSome = true →
          isIdentifier other = false → ¬ other < name)
      ∧ withConfig template config = .error (.invalidAlias name) := by
  cases hfirst : config.aliases.entries.find? fun entry =>
      !isIdentifier entry.1 with
  | none =>
    have hnames : ∀ entry ∈ config.aliases.entries,
        isIdentifier entry.1 = true := by
      intro entry hentry
      simpa using List.find?_eq_none.1 hfirst entry hentry
    refine .inl ⟨fun name hname => ?_, ?_⟩
    · rw [Table.isSome_find?_iff] at hname
      obtain ⟨entry, hentry, rfl⟩ := List.mem_map.1 hname
      exact hnames entry hentry
    · refine registerAliases_eq_ok_iff.2 ⟨hnames, ?_⟩
      rw [show (withJsonFields template config.jsonFields).aliases = ∅
        from rfl, Table.insertAll_entries]
  | some entry =>
    obtain ⟨hsome, hnot, hleast⟩ := Table.least_of_find?_entries
      (fun name => !isIdentifier name) hfirst
    refine .inr ⟨entry.1, hsome, by simpa using hnot,
      fun other hother hnot' => ?_, registerAliases_of_find? _ hfirst⟩
    exact hleast other hother (by rw [hnot']; rfl)

/-- The texts between the braces of all placeholders. -/
def placeholders (e : Engine) : List Text := e.pieces.filterMap Piece.text?

end Engine

end Stencil
