/-
Reading a path.

A path is an identifier followed by any number of `.` with an identifier
and of `[` `]` with an integer between them, and nothing else: white
space is passed over at the two ends of the text and just inside the
brackets. The reading goes from left to right and reports the first
thing that is wrong.
-/
import Stencil.Cursor
import Stencil.Path.Basic
import Stencil.Text.Blank

namespace Stencil.Path

open Text

/-- Reads what stands between brackets: an integer, white space around it
left out. -/
def parseIndex (inner : Text) : Except SyntaxError Int :=
  match (Cursor.start (trim inner)).integer with
  | (.error e, _) => .error e
  | (.ok i, after) => if after.atEnd then .ok i else .error (.badIndex inner)

/-- Reads the steps that follow the first one, to the end of the text. -/
def parseSteps (c : Cursor) : Except SyntaxError Path :=
  match _hrest : c.rest with
  | [] => .ok []
  | '.' :: t =>
    match _hname : (c.past ['.'] t).identifier with
    | (.error e, _) => .error e
    | (.ok name, after) => (parseSteps after).map (.field name :: ·)
  | '[' :: t =>
    match _hinner : (c.past ['['] t).upTo ']' with
    | (.error e, _) => .error e
    | (.ok inner, after) =>
      match parseIndex inner with
      | .error e => .error e
      | .ok i => (parseSteps (after.accept ']').2).map (.index i :: ·)
  | rest => .error (.unexpected rest)
termination_by c.rest.length
decreasing_by
  · have h := ((c.past ['.'] t).identifier_moves).length_le
    rw [_hname] at h
    simp only [Cursor.past] at h
    simp only [_hrest, List.length_cons]
    omega
  · have h := ((c.past ['['] t).upTo_moves ']').length_le
    have h' := (after.accept_moves ']').length_le
    rw [_hinner] at h
    simp only [Cursor.past] at h
    simp only [_hrest, List.length_cons]
    omega

/-- Reads a path, which has to be the whole text but for the white space
at its ends. -/
def parse (t : Text) : Except SyntaxError Path :=
  match (Cursor.start (trim t)).identifier with
  | (.error e, _) => .error e
  | (.ok name, after) => (parseSteps after).map (.field name :: ·)

end Stencil.Path
