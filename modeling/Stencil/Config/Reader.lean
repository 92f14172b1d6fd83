/-
Reading a configuration.

A configuration is an object with the members of `Config.memberNames`, or
an array of their values in that order. Each of them may be missing, in
an array from the end; no other member may be there, and none twice. The
text is read at the kinds of value that are wanted, so a value of another
kind is refused as soon as it is seen.
-/
import Stencil.Config.Basic
import Stencil.Json.Reader

namespace Stencil.Config

open Json (Cause Fault Found Reading)
open Json.Reader

-- ====================================================== kinds of values

/-- What a document is said to be when another kind was wanted. -/
def found : Json → Found
  | .null => .null
  | .bool b => .bool b
  | .int i => .int i
  | .float x => .float x
  | .string s => .string s
  | .array _ => .sequence
  | .object _ => .map

/-- The fault that at the front of a text there is not what is wanted. A
container is not gone into; anything else is read first, and may have
faults of its own. -/
def mistyped (wanted : Text) (t : Text) : Fault :=
  match t with
  | '[' :: _ => .before t (.invalidType .sequence wanted)
  | '{' :: _ => .before t (.invalidType .map wanted)
  | _ =>
    match value 0 t with
    | .error e => e
    | .ok (json, rest) => .before rest (.invalidType (found json) wanted)

/-- Reads a string. -/
def readString (t : Text) : Reading Text :=
  match skipGap t with
  | [] => .error (.before [] .endInValue)
  | '"' :: rest => string rest
  | t => .error (mistyped "a string" t)

/-- Reads a truth value. -/
def readBool (t : Text) : Reading Bool :=
  match skipGap t with
  | [] => .error (.before [] .endInValue)
  | 't' :: rest => (word "rue" rest).map (true, ·)
  | 'f' :: rest => (word "alse" rest).map (false, ·)
  | t => .error (mistyped "a boolean" t)

/-- Reads a list of strings. -/
def readStrings (t : Text) : Reading (List Text) :=
  match skipGap t with
  | [] => .error (.before [] .endInValue)
  | '[' :: rest => items readString true rest
  | t => .error (mistyped "a sequence" t)

/-- Reads an object whose members are strings; of members with one name
the last counts. -/
def readTable (t : Text) : Reading (Table Text) :=
  match skipGap t with
  | [] => .error (.before [] .endInValue)
  | '{' :: rest => members (entry Table.insert readString) true ∅ rest
  | t => .error (mistyped "a map" t)

-- ====================================================== configurations

/-- What has been read of a configuration. -/
structure Draft where
  jsonFields : Option (List Text)
  aliases : Option (Table Text)
  blankFailures : Option Bool
deriving Inhabited

namespace Draft

/-- The draft of which nothing has been read. -/
def empty : Draft := ⟨none, none, none⟩

/-- The configuration, with the default for what has not been read. -/
def finish (d : Draft) : Config :=
  { jsonFields := d.jsonFields.getD default.jsonFields
    aliases := d.aliases.getD default.aliases
    blankFailures := d.blankFailures.getD default.blankFailures }

/-- The fault that a member with the name in front of `t` must not be. It
lies in front of what follows the name, or behind the brace if that
closes the object. -/
def refuse (t : Text) (cause : Cause) : Fault :=
  match skipGap t with
  | '}' :: rest => .before rest cause
  | rest => .before rest cause

/-- Reads the value of a member that has not been there before. -/
def once {α : Type} (present : Bool) (bind : Draft → α → Draft)
    (value : Text → Reading α) (d : Draft) (name t : Text) :
    Reading Draft :=
  if present then .error (refuse t (.duplicateField name))
  else entry (fun d _ x => bind d x) value d name t

/-- Reads one member. -/
def member (d : Draft) (name t : Text) : Reading Draft :=
  if name = jsonFieldsName then
    once d.jsonFields.isSome (fun d x => { d with jsonFields := some x })
      readStrings d name t
  else if name = aliasesName then
    once d.aliases.isSome (fun d x => { d with aliases := some x })
      readTable d name t
  else if name = blankFailuresName then
    once d.blankFailures.isSome
      (fun d x => { d with blankFailures := some x }) readBool d name t
  else .error (refuse t (.unknownField name memberNames))

end Draft

/-- Passes the end of an array in which no more items may come. -/
def endOfArray (t : Text) : Except Fault Text :=
  match skipGap t with
  | [] => .error (.before [] .endInList)
  | ']' :: rest => .ok rest
  | ',' :: rest =>
    match skipGap rest with
    | ']' :: rest => .error (.on (']' :: rest) .trailingComma)
    | rest => .error (.on rest .trailingCharacters)
  | rest => .error (.on rest .trailingCharacters)

/-- Reads an array of values, behind its bracket. -/
def readArray (t : Text) : Except Fault (Draft × Text) := do
  let d := Draft.empty
  let (more, t) ← nextItem true t
  if !more then return (d, t)
  let (jsonFields, t) ← readStrings t
  let d := { d with jsonFields := some jsonFields }
  let (more, t) ← nextItem false t
  if !more then return (d, t)
  let (aliases, t) ← readTable t
  let d := { d with aliases := some aliases }
  let (more, t) ← nextItem false t
  if !more then return (d, t)
  let (blankFailures, t) ← readBool t
  let d := { d with blankFailures := some blankFailures }
  let t ← endOfArray t
  return (d, t)

/-- Reads an object or an array of values. -/
def readDraft (t : Text) : Reading Draft :=
  match skipGap t with
  | [] => .error (.before [] .endInValue)
  | '[' :: rest => readArray rest
  | '{' :: rest => members Draft.member true Draft.empty rest
  | t => .error (mistyped "struct Config" t)

/-- Reads a configuration, which has to be the whole text. -/
def read (t : Text) : Except Json.ReadError Config :=
  (whole? readDraft t).map Draft.finish

end Stencil.Config
