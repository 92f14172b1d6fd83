/-
The command line.

Two operands are wanted, a template and the data for it. Options may
stand anywhere among them; some take a value, in the same argument behind
`=` or as the next argument, which must not look like an option then.
Behind `--` everything is an operand. What an option is given is looked at
when the next argument that is no value has been seen to be one of the
known options or an operand, and at the end; so of two mistakes an unknown
option wins over a bad value just before it.
-/
import Stencil.Command.Plain
import Stencil.Text.Blank

namespace Stencil.Command

open Text

-- ============================================================== options

/-- An option that takes a value. -/
inductive Valued where
  | jsonField
  | aliasPath
  | scriptText
  | config
deriving DecidableEq, Repr

/-- An option that is there or not. -/
inductive Switch where
  | validate
  | keepUnresolved
deriving DecidableEq, Repr

/-- Something to be told in place of doing anything. -/
inductive Notice where
  | help
  | version
deriving DecidableEq, Repr

/-- What a name behind `--` stands for. -/
inductive Named where
  | valued (option : Valued)
  | switch (option : Switch)
  | notice (notice : Notice)
deriving DecidableEq, Repr

/-- The options by name. -/
def options : List (Text × Named) :=
  [("json-field", .valued .jsonField), ("alias", .valued .aliasPath),
    ("script", .valued .scriptText), ("config", .valued .config),
    ("validate", .switch .validate),
    ("keep-unresolved", .switch .keepUnresolved),
    ("help", .notice .help), ("version", .notice .version)]

/-- How an option with a value is referred to. -/
def Valued.label : Valued → Text
  | jsonField => "--json-field <NAME>"
  | aliasPath => "--alias <NAME=PATH>"
  | scriptText => "--script <NAME=TEXT>"
  | config => "--config <CONFIG>"

/-- How a switch is referred to. -/
def Switch.label : Switch → Text
  | validate => "--validate"
  | keepUnresolved => "--keep-unresolved"

/-- How an option that only tells something is referred to. -/
def Notice.label : Notice → Text
  | help => "--help"
  | version => "--version"

-- ============================================================= mistakes

/-- What is wrong with a command line. -/
inductive Misuse where
  /-- Neither an option nor an operand that is wanted. -/
  | unexpectedArgument (argument : Text)
  /-- A value for an option that takes none. -/
  | unexpectedValue (value label : Text)
  /-- No value for an option that takes one. -/
  | missingValue (label : Text)
  /-- A value that is no name and text with `=` between them. -/
  | invalidPair (value label : Text)
  /-- An option that can be given once is given again. -/
  | repeated (label : Text)
  /-- The operands that are missing. -/
  | missingOperands (operands : List Text)
deriving DecidableEq, Repr

/-- What stands behind the wording of every mistake, up to the option that
tells more. -/
def helpHint : Text := "\n\nFor more information, try '"

/-- The wording of a mistake and the hint behind it, in the spans that are
set off from one another; a bad pair is told of in one span with the
hint. -/
def Misuse.spans : Misuse → List Text
  | unexpectedArgument argument =>
    ["unexpected argument '", argument, "' found", helpHint]
  | unexpectedValue value label =>
    ["unexpected value '", value, "' for '", label,
      "' found; no more were expected", helpHint]
  | missingValue label =>
    ["a value is required for '", label, "' but none was supplied",
      helpHint]
  | invalidPair value label =>
    ["invalid value '", value, "' for '", label, "': ",
      join ["expected NAME=VALUE, got `", value, "`", helpHint]]
  | repeated label =>
    ["the argument '", label, "' cannot be used multiple times", helpHint]
  | missingOperands operands =>
    ["the following required arguments were not provided:",
      join (operands.map fun name => join ["\n  ", name]), helpHint]

/-- What a mistake is reported with. The command line is repeated in it,
so each span is freed of what controls a terminal. -/
def Misuse.message (m : Misuse) : Text :=
  join ((m.spans ++ ["--help".toList, "'.".toList]).map plain)

-- ============================================================ arguments

/-- A command line that has been understood. -/
structure Arguments where
  template : Text
  data : Text
  jsonFields : List Text
  aliases : List (Text × Text)
  scripts : List (Text × Text)
  config : Option Text
  validate : Bool
  keepUnresolved : Bool
deriving DecidableEq, Repr

/-- Why nothing is to be done: something is to be told, or the command
line is wrong. -/
inductive Stop where
  | notice (notice : Notice)
  | misuse (misuse : Misuse)
deriving DecidableEq, Repr

/-- A name and a text from an argument, which has `=` between them: the
first one counts, and only the name is trimmed. -/
def pair? (t : Text) : Option (Text × Text) :=
  match t.dropWhile (· ≠ '=') with
  | [] => none
  | _ :: text => some (trim (t.takeWhile (· ≠ '=')), text)

/-- What has been understood of a command line. -/
structure Draft where
  operands : List Text
  jsonFields : List Text
  aliases : List (Text × Text)
  scripts : List (Text × Text)
  config : Option Text
  validate : Bool
  keepUnresolved : Bool
deriving DecidableEq, Repr

namespace Draft

/-- What is understood at the beginning. -/
def empty : Draft := ⟨[], [], [], [], none, false, false⟩

/-- Takes in a value for an option. -/
def give (d : Draft) (option : Valued) (value : Text) :
    Except Misuse Draft :=
  match option with
  | .jsonField => .ok { d with jsonFields := d.jsonFields ++ [value] }
  | .aliasPath =>
    match pair? value with
    | some pair => .ok { d with aliases := d.aliases ++ [pair] }
    | none => .error (.invalidPair value option.label)
  | .scriptText =>
    match pair? value with
    | some pair => .ok { d with scripts := d.scripts ++ [pair] }
    | none => .error (.invalidPair value option.label)
  | .config =>
    if d.config.isSome then .error (.repeated option.label)
    else if value = [] then .error (.missingValue option.label)
    else .ok { d with config := some value }

/-- Takes in a switch. -/
def turnOn (d : Draft) (option : Switch) : Except Misuse Draft :=
  match option with
  | .validate =>
    if d.validate then .error (.repeated option.label)
    else .ok { d with validate := true }
  | .keepUnresolved =>
    if d.keepUnresolved then .error (.repeated option.label)
    else .ok { d with keepUnresolved := true }

/-- The arguments, if all operands are there. -/
def finish (d : Draft) : Except Misuse Arguments :=
  match d.operands with
  | [] => .error (.missingOperands ["<TEMPLATE>", "<DATA>"])
  | [_] => .error (.missingOperands ["<DATA>"])
  | template :: data :: _ =>
    .ok
      { template := template
        data := data
        jsonFields := d.jsonFields
        aliases := d.aliases
        scripts := d.scripts
        config := d.config
        validate := d.validate
        keepUnresolved := d.keepUnresolved }

end Draft

-- ============================================================== reading

/-- An option whose value has not been looked at. -/
inductive Pending where
  | none
  /-- The value has not come yet. -/
  | awaiting (option : Valued)
  /-- This is the value. -/
  | given (option : Valued) (value : Text)
deriving DecidableEq, Repr

/-- The state between two arguments. -/
structure State where
  draft : Draft
  pending : Pending
  /-- Whether `--` has been seen. -/
  operandsOnly : Bool
deriving DecidableEq, Repr

namespace State

/-- The state at the beginning. -/
def start : State := ⟨.empty, .none, false⟩

/-- Looks at the value of the option before. -/
def settle (s : State) : Except Misuse Draft :=
  match s.pending with
  | .none => .ok s.draft
  | .awaiting option => .error (.missingValue option.label)
  | .given option value => s.draft.give option value

/-- The state when something has been taken in behind the option
before. -/
def settled (s : State) (take : Draft → Except Misuse Draft) :
    Except Stop State :=
  match s.settle.bind take with
  | .ok draft => .ok { s with draft := draft, pending := .none }
  | .error misuse => .error (.misuse misuse)

/-- Looks at the option before, and then stops to tell something. -/
def tell (s : State) (notice : Notice) : Except Stop State :=
  match s.settle with
  | .ok _ => .error (.notice notice)
  | .error misuse => .error (.misuse misuse)

/-- Takes in an operand; there are two. -/
def operand (s : State) (argument : Text) : Except Stop State :=
  if s.draft.operands.length < 2 then
    s.settled fun d => .ok { d with operands := d.operands ++ [argument] }
  else .error (.misuse (.unexpectedArgument argument))

/-- Takes in an option with a name, and the value behind its `=`. -/
def named (s : State) (name : Text) (value : Option Text) :
    Except Stop State :=
  match options.lookup name, value with
  | some (.valued option), some value => s.settled (·.give option value)
  | some (.valued option), none => do
    let s ← s.settled .ok
    .ok { s with pending := .awaiting option }
  | some (.switch option), none => s.settled (·.turnOn option)
  | some (.switch option), some value =>
    .error (.misuse (.unexpectedValue value option.label))
  | some (.notice notice), none => s.tell notice
  | some (.notice notice), some value =>
    .error (.misuse (.unexpectedValue value notice.label))
  | none, _ => .error (.misuse (.unexpectedArgument ("--".toList ++ name)))

/-- Takes in an option of one letter, of which there are two. -/
def letter (s : State) (c : Char) : Except Stop State :=
  if c = 'h' then s.tell .help
  else if c = 'V' then s.tell .version
  else .error (.misuse (.unexpectedArgument ['-', c]))

/-- Takes in the next argument. -/
def step (s : State) (argument : Text) : Except Stop State :=
  if s.operandsOnly then s.operand argument
  else
    match argument with
    | ['-', '-'] => .ok { s with operandsOnly := true }
    | '-' :: '-' :: rest =>
      match rest.dropWhile (· ≠ '=') with
      | [] => s.named rest none
      | _ :: value => s.named (rest.takeWhile (· ≠ '=')) (some value)
    | '-' :: c :: _ => s.letter c
    | _ =>
      match s.pending with
      | .awaiting option =>
        .ok { s with pending := .given option argument }
      | _ => s.operand argument

/-- Takes in all arguments. -/
def steps (s : State) : List Text → Except Stop State
  | [] => .ok s
  | argument :: rest =>
    match s.step argument with
    | .ok s => s.steps rest
    | .error stop => .error stop

end State

/-- Reads a command line. -/
def parse (arguments : List Text) : Except Stop Arguments :=
  match State.start.steps arguments with
  | .error stop => .error stop
  | .ok s => (s.settle.bind Draft.finish).mapError .misuse

end Stencil.Command
