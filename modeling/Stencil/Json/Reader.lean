/-
Reading JSON.

The format is read strictly: white space is the space, the tab and the
two line ends, nothing may be left out, and nothing may follow but white
space. At most 127 containers may be open at a time. Of members with one
name the last counts.

Lists and objects are read member by member through `nextItem` and
`nextMember`, which say whether another one comes, so that a reader of
some fixed shape can use them too.
-/
import Stencil.Json.Number
import Stencil.Json.Quoted

namespace Stencil.Json.Reader

open Text

/-- White space between the parts of a document. -/
def isGap (c : Char) : Bool :=
  c == ' ' || c == '\t' || c == '\n' || c == '\r'

/-- A text without the white space in front. -/
def skipGap (t : Text) : Text := t.dropWhile isGap

/-- Passes the characters of a word, one after the other. -/
def word : Text → Text → Except Fault Text
  | [], t => .ok t
  | _ :: _, [] => .error (.before [] .endInValue)
  | w :: ws, c :: t =>
    if c = w then word ws t else .error (.on (c :: t) .wordExpected)

-- ============================================================ containers

/-- Looks for the next item of a list, of which this is the `first` or a
later one. With `true`, the item comes next; with `false`, the list is
over, and what follows its bracket comes next. -/
def nextItem (first : Bool) (t : Text) : Reading Bool :=
  match skipGap t with
  | [] => .error (.before [] .endInList)
  | ']' :: rest => .ok (false, rest)
  | c :: rest =>
    if first then .ok (true, c :: rest)
    else if c = ',' then
      match skipGap rest with
      | [] => .error (.before [] .endInValue)
      | ']' :: rest => .error (.on (']' :: rest) .trailingComma)
      | rest => .ok (true, rest)
    else .error (.on (c :: rest) .listCommaOrEndExpected)

/-- Looks for the next member of an object, of which this is the `first`
or a later one, and reads its name. Without a name, the object is over,
and what follows its brace comes next. -/
def nextMember (first : Bool) (t : Text) : Reading (Option Text) :=
  match skipGap t with
  | [] => .error (.before [] .endInObject)
  | '}' :: rest => .ok (none, rest)
  | c :: rest =>
    if first then
      if c = '"' then key rest else .error (.on (c :: rest) .keyNotString)
    else if c = ',' then
      match skipGap rest with
      | [] => .error (.before [] .endInValue)
      | '"' :: rest => key rest
      | '}' :: rest => .error (.on ('}' :: rest) .trailingComma)
      | rest => .error (.on rest .keyNotString)
    else .error (.on (c :: rest) .objectCommaOrEndExpected)
where
  key (t : Text) : Reading (Option Text) :=
    match string t with
    | .ok (name, rest) => .ok (some name, rest)
    | .error e => .error e

/-- Passes the colon behind the name of a member. -/
def colon (t : Text) : Except Fault Text :=
  match skipGap t with
  | [] => .error (.before [] .endInObject)
  | ':' :: rest => .ok rest
  | rest => .error (.on rest .colonExpected)

/-- Reads the items of a list, each by `item`, up to the end of the list.
An `item` that takes nothing would be asked for ever and is refused. -/
def items {α : Type} (item : Text → Reading α) (first : Bool) (t : Text) :
    Reading (List α) :=
  match nextItem first t with
  | .error e => .error e
  | .ok (false, rest) => .ok ([], rest)
  | .ok (true, start) =>
    match item start with
    | .error e => .error e
    | .ok (x, rest) =>
      if rest.length < t.length then
        match items item false rest with
        | .error e => .error e
        | .ok (xs, rest) => .ok (x :: xs, rest)
      else .error (.before rest .valueExpected)
termination_by t.length

/-- Reads the members of an object up to its end. What is read of each
member, from behind its name, is taken into `state` by `member`. A
`member` that takes nothing is refused. -/
def members {σ : Type} (member : σ → Text → Text → Reading σ)
    (first : Bool) (state : σ) (t : Text) : Reading σ :=
  match nextMember first t with
  | .error e => .error e
  | .ok (none, rest) => .ok (state, rest)
  | .ok (some name, start) =>
    match member state name start with
    | .error e => .error e
    | .ok (state, rest) =>
      if rest.length < t.length then members member false state rest
      else .error (.before rest .valueExpected)
termination_by t.length

/-- Reads the value of a member, and takes it into `state` by `bind`. -/
def entry {α σ : Type} (bind : σ → Text → α → σ)
    (value : Text → Reading α) (state : σ) (name : Text) (t : Text) :
    Reading σ :=
  match colon t with
  | .error e => .error e
  | .ok rest =>
    match value rest with
    | .error e => .error e
    | .ok (v, rest) => .ok (bind state name v, rest)

-- ============================================================= documents

/-- The members of an object with one more, or with a new value for one
of them. -/
def bindMember (members : List (Text × Json)) (name : Text) (v : Json) :
    List (Text × Json) :=
  insertEntry name v members

/-- Gives `json` behind a word. -/
def constant (json : Json) (rest : Text) (t : Text) : Reading Json :=
  (word rest t).map (json, ·)

/-- Reads a document in which at most `depth` containers are open at a
time. -/
def value (depth : Nat) (t : Text) : Reading Json :=
  match skipGap t with
  | [] => .error (.before [] .endInValue)
  | 'n' :: rest => constant null "ull" rest
  | 't' :: rest => constant (bool true) "rue" rest
  | 'f' :: rest => constant (bool false) "alse" rest
  | '-' :: rest => number true rest
  | '"' :: rest => (string rest).map fun (s, rest) => (.string s, rest)
  | '[' :: rest =>
    match depth with
    | 0 => .error (.on ('[' :: rest) .tooDeep)
    | depth + 1 =>
      (items (value depth) true rest).map
        fun (xs, rest) => (.array xs, rest)
  | '{' :: rest =>
    match depth with
    | 0 => .error (.on ('{' :: rest) .tooDeep)
    | depth + 1 =>
      (members (entry bindMember (value depth)) true [] rest).map
        fun (ms, rest) => (.object ms, rest)
  | c :: rest =>
    if c.isDigit then number false (c :: rest)
    else .error (.on (c :: rest) .valueExpected)

/-- How many containers may be open at a time. -/
def maxDepth : Nat := 127

/-- Reads what has to be the whole of a text, but for white space behind
it. -/
def whole? {α : Type} (read : Text → Reading α) (t : Text) :
    Except ReadError α :=
  report t <|
    match read t with
    | .error e => .error e
    | .ok (x, rest) =>
      match skipGap rest with
      | [] => .ok x
      | rest => .error (.on rest .trailingCharacters)

end Reader

/-- Reads a document, which has to be the whole text. -/
def read (t : Text) : Except ReadError Json :=
  Reader.whole? (Reader.value Reader.maxDepth) t

end Stencil.Json
