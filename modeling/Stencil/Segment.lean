/-
A template as a sequence of literal runs and placeholders.

A placeholder reaches from `${` to the next `}`. `scan` finds the
placeholders from left to right; what lies between two of them is one
literal, and a `${` that no `}` follows is literal text up to the end.
Nothing is lost: `flatMap_source_scan` says that the segments written one
after the other are the template.
-/
import Stencil.Text.Blank

namespace Stencil

open Text

/-- A piece of a template. -/
inductive Segment where
  /-- Text to be copied. -/
  | literal (text : Text)
  /-- A placeholder: all of it from `${` to `}`, what stands between the
  braces without the white space around it, and where it is. -/
  | placeholder (raw expression : Text) (span : Span)
deriving DecidableEq, Repr

namespace Segment

/-- The part of the template that a segment is. -/
def source : Segment → Text
  | literal text => text
  | placeholder raw _ _ => raw

/-- Cuts a text in front of its first `${`. -/
def splitOpen : Text → Text × Text
  | [] => ([], [])
  | '$' :: '{' :: t => ([], '$' :: '{' :: t)
  | c :: t => (c :: (splitOpen t).1, (splitOpen t).2)

theorem splitOpen_append (t : Text) :
    (splitOpen t).1 ++ (splitOpen t).2 = t := by
  fun_induction splitOpen t <;> simp_all

/-- The placeholder that has this body and starts at `offset`. -/
def ofBody (offset : Nat) (body : Text) : Segment :=
  let raw := ['$', '{'] ++ body ++ ['}']
  .placeholder raw (trim body) ⟨offset, offset + byteLength raw⟩

/-- The body of the placeholder that a text starts with, and what comes
behind the placeholder. -/
def splitBody? : Text → Option (Text × Text)
  | '$' :: '{' :: t =>
    match t.dropWhile (· ≠ '}') with
    | [] => none
    | _ :: rest => some (t.takeWhile (· ≠ '}'), rest)
  | _ => none

theorem eq_of_splitBody? {t body rest : Text}
    (h : splitBody? t = some (body, rest)) :
    t = ['$', '{'] ++ body ++ ['}'] ++ rest := by
  unfold splitBody? at h
  split at h
  case h_2 => cases h
  case h_1 t =>
    split at h
    case h_1 => cases h
    case h_2 x rest hdrop =>
      injection h with h
      injection h with hbody hrest
      have hx : x = '}' := by
        have hhead := List.head_dropWhile_not (· ≠ '}') (l := t)
          (by rw [hdrop]; exact List.cons_ne_nil x rest)
        simp only [hdrop, List.head_cons] at hhead
        simpa using hhead
      subst hx
      have ht : t = t.takeWhile (· ≠ '}') ++ '}' :: rest := by
        rw [← hdrop, List.takeWhile_append_dropWhile]
      rw [← hbody, ← hrest, List.append_assoc, List.append_assoc,
        List.singleton_append, ← ht]
      rfl

/-- The segments of a text that starts at the byte position `offset`. -/
def scanFrom (offset : Nat) (t : Text) : List Segment :=
  match _cut : splitOpen t with
  | (c :: text, rest) =>
    .literal (c :: text) :: scanFrom (offset + byteLength (c :: text)) rest
  | ([], rest) =>
    match _taken : splitBody? rest with
    | some (body, after) =>
      let segment := ofBody offset body
      segment :: scanFrom (offset + byteLength segment.source) after
    | none => if rest = [] then [] else [.literal rest]
termination_by t.length
decreasing_by
  · have h := congrArg List.length (splitOpen_append t)
    simp only [_cut, List.length_append, List.length_cons] at h
    omega
  · have h := congrArg List.length (splitOpen_append t)
    have h' := congrArg List.length (eq_of_splitBody? _taken)
    simp only [_cut, List.nil_append] at h
    simp only [List.length_append, List.length_cons] at h'
    omega

/-- The segments of a template. -/
def scan (template : Text) : List Segment := scanFrom 0 template

-- ========================================================= nothing lost

theorem flatMap_source_scanFrom (offset : Nat) (t : Text) :
    (scanFrom offset t).flatMap source = t := by
  fun_induction scanFrom offset t with
  | case1 offset t c text rest cut ih =>
    have h := splitOpen_append t
    rw [cut] at h
    rw [List.flatMap_cons, ih]
    exact h
  | case2 offset t rest cut body after taken segment ih =>
    have h := splitOpen_append t
    rw [cut] at h
    rw [List.flatMap_cons, ih, ← h]
    exact (eq_of_splitBody? taken).symm
  | case3 offset t cut =>
    have h := splitOpen_append t
    rw [cut] at h
    exact h
  | case4 offset t rest cut =>
    have h := splitOpen_append t
    rw [cut] at h
    rw [List.flatMap_cons, List.flatMap_nil, List.append_nil]
    exact h

/-- The segments of a template, one after the other, are the template. -/
theorem flatMap_source_scan (template : Text) :
    (scan template).flatMap source = template :=
  flatMap_source_scanFrom 0 template

end Segment

end Stencil
