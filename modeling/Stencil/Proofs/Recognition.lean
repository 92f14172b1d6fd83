/-
Two ways to recognise an identifier.

`isIdentifier` is given a whole text and goes over its characters. A
cursor is given a text in which a name may be followed by anything, and
has to find out where the name ends. Both have the same names: a cursor
reads one exactly where some front part of what is left is an identifier,
and takes the longest such part. So a text is an identifier exactly if a
cursor reads it to its end, and then it is a path of one step too.

# The argument

An identifier that stands in front starts a name, so the cursor reads one
(`exists_identifier_iff`). Which one is settled by maximal munch
(`identifier_eq_ok_iff`): there is one longest front part, and that a
whole text is an identifier leaves no longer one
(`Longest.eq_of_kind`). As a path the text is trimmed first, which takes
nothing off, since no character of a name is white space
(`parse_eq_field_iff`).

Main statement: `recognisers_agree`.
-/
import Stencil.Proofs.Courses

namespace Stencil

open Text

-- ==================================================== longest front parts

/-- Where the whole text is of the kind, nothing is left out. -/
theorem Longest.eq_of_kind {kind : Text → Prop} {t front : Text}
    (h : Longest kind t front) (ht : kind t) : front = t :=
  h.within.eq_of_length_le (h.longest t List.prefix_rfl ht).length_le

namespace Cursor

-- ================================================================= names

/-- A name is read exactly where an identifier stands in front. -/
theorem exists_identifier_iff (c : Cursor) :
    (∃ name after, c.identifier = (.ok name, after))
      ↔ ∃ front, front ≠ [] ∧ front <+: c.rest
          ∧ isIdentifier front = true := by
  constructor
  · rintro ⟨name, after, h⟩
    obtain ⟨hname, hrest⟩ := of_identifier_eq_ok h
    exact ⟨name, ne_nil_of_isIdentifier hname, ⟨after.rest, hrest.symm⟩,
      hname⟩
  · rintro ⟨front, -, ⟨behind, hrest⟩, hfront⟩
    rcases c.identifier_cases with ⟨name, behind, -, -, h⟩ | ⟨hno, -⟩
    · exact ⟨name, _, h⟩
    · rw [← hrest] at hno
      exact absurd (startsName_append behind hfront) hno

/-- What is read is the longest front part that is an identifier, and the
cursor is left behind it. -/
theorem identifier_eq_ok_iff (c : Cursor) (name : Text) (after : Cursor) :
    c.identifier = (.ok name, after)
      ↔ Longest (isIdentifier · = true) c.rest name
        ∧ after = c.past name (c.rest.drop name.length) := by
  rcases c.identifier_cases with
    ⟨found, behind, hrest, hlongest, h⟩ | ⟨hno, h⟩
  · have hbehind : c.rest.drop found.length = behind := by
      rw [hrest, List.drop_left]
    rw [h]
    constructor
    · intro heq
      cases heq
      exact ⟨hlongest, by rw [hbehind]⟩
    · rintro ⟨hname, rfl⟩
      rw [hname.unique hlongest, hbehind]
  · rw [h]
    refine iff_of_false nofun ?_
    rintro ⟨hname, -⟩
    obtain ⟨behind, hrest⟩ := hname.within
    rw [← hrest] at hno
    exact hno (startsName_append behind hname.fits)

end Cursor

/-- The paths of one step to a name are the identifiers. -/
theorem Path.parse_eq_field_iff (t : Text) :
    Path.parse t = .ok [.field t] ↔ isIdentifier t = true := by
  constructor
  · intro h
    exact (written_of_parse h).isIdentifier_of_mem
      (List.mem_singleton_self _)
  · intro h
    have hwritten := written_field h
    exact parse_of_written (by rwa [hwritten.trim_eq])

/-- Whole texts and front parts are recognised alike. A cursor reads a
name exactly where some front part of what is left is an identifier, and
it reads the longest one. So the identifiers are the texts that a cursor
reads to their end, and those that are themselves a path of one step. -/
theorem recognisers_agree :
    (∀ c : Cursor,
      ((∃ name after, c.identifier = (.ok name, after))
          ↔ ∃ front, front ≠ [] ∧ front <+: c.rest
              ∧ isIdentifier front = true)
        ∧ ∀ name after, c.identifier = (.ok name, after)
          ↔ Longest (isIdentifier · = true) c.rest name
            ∧ after = c.past name (c.rest.drop name.length))
      ∧ ∀ t : Text,
        (isIdentifier t = true
            ↔ ∃ name after, (Cursor.start t).identifier = (.ok name, after)
              ∧ after.rest = [])
          ∧ (isIdentifier t = true ↔ Path.parse t = .ok [.field t]) := by
  refine ⟨fun c => ⟨c.exists_identifier_iff, c.identifier_eq_ok_iff⟩,
    fun t => ⟨⟨fun ht => ?_, ?_⟩, (Path.parse_eq_field_iff t).symm⟩⟩
  · -- the whole text is one of the front parts, so it is the longest
    obtain ⟨name, after, h⟩ := (Cursor.start t).exists_identifier_iff.2
      ⟨t, ne_nil_of_isIdentifier ht, List.prefix_rfl, ht⟩
    obtain ⟨hlongest, hafter⟩ := (Cursor.identifier_eq_ok_iff ..).1 h
    obtain rfl : name = t := hlongest.eq_of_kind ht
    refine ⟨name, after, h, ?_⟩
    rw [hafter]
    exact List.drop_length
  · rintro ⟨name, after, h, hend⟩
    obtain ⟨hname, hrest⟩ := Cursor.of_identifier_eq_ok h
    rw [hend, List.append_nil] at hrest
    obtain rfl : t = name := hrest
    exact hname

-- An accent of its own goes on with a name and starts none.
example :
    let c := Cursor.start "e\u0301t\u0301.a".toList
    c.identifier.1 = .ok "e\u0301t\u0301".toList
      ∧ isIdentifier "\u0301t".toList = false := by
  decide +kernel

end Stencil
