/-
Reading a printed configuration.

A configuration is written as an object with all of its members, and is
read from it as it was: the fields in their order, every alias with its
path, and the flag, whatever characters the names and the paths have.

# The argument

The readers of strings, lists, tables and truth values are followed over
what is printed for them, with any text behind, by what is known of lists
and objects in general (`items_separated`, `members_separated`). The names
of a table are bound in their order, so that the table is read as it is
(`Table.insertAll_entries`). The three members of a configuration come in
their own order, each for the first time, and each is put into the draft
(`once_of_read`).

Main statement: `roundtrip`.
-/
import Stencil.Config.Reader
import Stencil.Proofs.JsonRoundTrip

namespace Stencil

namespace Config

open Json Json.Reader

theorem readString_quote (s rest : Text) :
    readString (quote s ++ rest) = .ok (s, rest) := by
  rw [quote_append, readString, skipGap_cons _ rfl]
  exact string_quoted s rest

/-- A list of strings is read as it is written. -/
theorem readStrings_print (names : List Text) (rest : Text) :
    readStrings ((Json.array (names.map .string)).print ++ rest)
      = .ok (names, rest) := by
  have hitems : printItems (names.map .string) = names.map quote := by
    rw [printItems_eq_map, List.map_map]
    rfl
  have hstarts : ∀ s ∈ names, Starts (quote s) := fun s _ =>
    ⟨'"', _, rfl, rfl, by decide⟩
  show readStrings
    ('[' :: (Text.joinWith "," (printItems (names.map .string)) ++ [']'])
      ++ rest) = _
  rw [hitems, List.cons_append, List.append_assoc, readStrings,
    skipGap_cons _ rfl]
  exact items_separated true rest hstarts fun s _ after _ =>
    readString_quote s after

/-- A table of strings is read as it is written. -/
theorem readTable_print (t : Table Text) (rest : Text) :
    readTable
        ((Json.object (t.entries.map fun entry =>
            (entry.1, .string entry.2))).print ++ rest)
      = .ok (t, rest) := by
  have hmembers : printMembers (t.entries.map fun entry =>
        (entry.1, .string entry.2))
      = t.entries.map fun entry => quote entry.1 ++ [':'] ++ quote entry.2 := by
    rw [printMembers_eq_map, List.map_map]
    rfl
  have hread : ∀ entry ∈ t.entries, ∀ after, Ends after →
      readString (quote entry.2 ++ after) = .ok (entry.2, after) :=
    fun entry _ after _ => readString_quote entry.2 after
  show readTable ('{' :: (Text.joinWith "," (printMembers _) ++ ['}']) ++ rest)
    = _
  rw [hmembers, List.cons_append, List.append_assoc, readTable,
    skipGap_cons _ rfl]
  refine (members_separated Table.insert true ∅ rest hread).trans ?_
  exact congrArg (fun t => Except.ok (t, rest)) t.insertAll_entries

/-- A truth value is read as it is written. -/
theorem readBool_print (b : Bool) (rest : Text) :
    readBool ((Json.bool b).print ++ rest) = .ok (b, rest) := by
  cases b with
  | false =>
    show readBool ('f' :: 'a' :: 'l' :: 's' :: 'e' :: rest) = _
    rw [readBool]
    rfl
  | true =>
    show readBool ('t' :: 'r' :: 'u' :: 'e' :: rest) = _
    rw [readBool]
    rfl

/-- A member that has not been there before is put into the draft. -/
theorem once_of_read {α : Type} {read : Text → Reading α} {x : α}
    {t after : Text} (bind : Draft → α → Draft) (d : Draft) (name : Text)
    (h : read t = .ok (x, after)) :
    Draft.once false bind read d name (':' :: t) = .ok (bind d x, after) := by
  have hcolon : colon (':' :: t) = .ok t := rfl
  rw [Draft.once, if_neg Bool.false_ne_true, entry, hcolon]
  simp only [h]

/-- The members of a configuration are read as they are written, each into
its place of the draft. -/
theorem readDraft_print (c : Config) (rest : Text) :
    readDraft (c.print ++ rest)
      = .ok (⟨some c.jsonFields, some c.aliases, some c.blankFailures⟩,
        rest) := by
  let fields := Json.array (c.jsonFields.map .string)
  let aliases := Json.object (c.aliases.entries.map fun entry =>
    (entry.1, .string entry.2))
  have hfields : ∀ after,
      Draft.member .empty jsonFieldsName (':' :: (fields.print ++ after))
        = .ok (⟨some c.jsonFields, none, none⟩, after) := fun after =>
    once_of_read (fun d x => { d with jsonFields := some x }) .empty
      jsonFieldsName (readStrings_print c.jsonFields after)
  have haliases : ∀ after,
      Draft.member ⟨some c.jsonFields, none, none⟩ aliasesName
          (':' :: (aliases.print ++ after))
        = .ok (⟨some c.jsonFields, some c.aliases, none⟩, after) :=
    fun after =>
      once_of_read (fun d x => { d with aliases := some x }) _ aliasesName
        (readTable_print c.aliases after)
  have hblank : ∀ after,
      Draft.member ⟨some c.jsonFields, some c.aliases, none⟩
          blankFailuresName
          (':' :: ((Json.bool c.blankFailures).print ++ after))
        = .ok (⟨some c.jsonFields, some c.aliases, some c.blankFailures⟩,
          after) := fun after =>
    once_of_read (fun d x => { d with blankFailures := some x }) _
      blankFailuresName (readBool_print c.blankFailures after)
  show readDraft ('{' :: (Text.joinWith "," (printMembers _) ++ ['}']) ++ rest)
    = _
  rw [List.cons_append, List.append_assoc, readDraft, skipGap_cons _ rfl]
  exact members_of_member true (hfields _) (members_of_member false
    (haliases _) (members_of_member false (hblank _)
      (members_nil false _ rest)))

theorem read_print (c : Config) : read c.print = .ok c := by
  have hdraft := readDraft_print c []
  rw [List.append_nil] at hdraft
  rw [read, whole?, hdraft]
  rfl

/-- Every configuration is read from what is printed for it as it was; so
no two are printed alike. -/
theorem roundtrip :
    (∀ c : Config, read c.print = .ok c) ∧ Function.Injective print := by
  refine ⟨read_print, fun c c' h => ?_⟩
  have hsame := read_print c
  rw [h, read_print c'] at hsame
  cases hsame
  rfl

end Config

end Stencil
