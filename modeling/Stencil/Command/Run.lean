/-
What the command does.

Its stages follow one another, and the first that fails decides: the data
are read, the configuration is read from its file, the options are laid
over it, the engine is made with it, the scripts are registered, and the
template is rendered. A failure is one line on the error output and exit
code 1; a command line that is wrong is exit code 2.
-/
import Stencil.Command.Arguments
import Stencil.Config.Reader
import Stencil.Engine.Render

namespace Stencil.Command

open Text

/-- What a run leaves: its exit code and what it has written. -/
structure Outcome where
  code : Nat
  stdout : Text
  stderr : Text
deriving DecidableEq, Repr

/-- The name and the version of the program. -/
def versionLine : Text := "tiny-template 0.1.0\n"

/-- How the program is used. Each argument and each option has a line of
its own, with what it is for in one column. -/
def helpText : Text :=
  join
    ["Simple runner: pass a template and JSON data via CLI\n\n",
      "Usage: tt [OPTIONS] <TEMPLATE> <DATA>\n\n",
      "Arguments:\n",
      "  <TEMPLATE>  ",
      "Template text containing `$\x7b...\x7d` placeholders\n",
      "  <DATA>      ",
      "JSON document (string). ",
      "You can also pipe a file using shell quoting\n\n",
      "Options:\n",
      "      --json-field <NAME>   ",
      "Field whose string value is decoded as JSON before descending ",
      "(repeatable)\n",
      "      --alias <NAME=PATH>   ",
      "Alias as NAME=PATH, referenced as `$\x7balias:NAME\x7d` ",
      "(repeatable)\n",
      "      --script <NAME=TEXT>  ",
      "Script returning fixed text, as NAME=TEXT, ",
      "referenced as `$\x7bscript:NAME\x7d` (repeatable)\n",
      "      --config <CONFIG>     ",
      "JSON config file with json_fields, aliases and ",
      "interpolate_failure_as_blank\n",
      "      --validate            ",
      "Fail when any placeholder cannot be resolved\n",
      "      --keep-unresolved     ",
      "Leave unresolved placeholders as written instead of blanking them\n",
      "  -h, --help                Print help\n",
      "  -V, --version             Print version\n"]

namespace Arguments

/-- A configuration with the options laid over it. -/
def applyTo (args : Arguments) (config : Config) : Config :=
  { jsonFields := config.jsonFields ++ args.jsonFields
    aliases := config.aliases.insertAll args.aliases
    blankFailures := config.blankFailures && !args.keepUnresolved }

/-- The configuration before the options; `file` is what reading the file
has given, if one is named. -/
def readConfig (args : Arguments) (file : Text → Except Text Text) :
    Except Text Config :=
  match args.config with
  | none => .ok .default
  | some path =>
    match file path with
    | .error e => .error (join ["cannot read ", path, ": ", e])
    | .ok text =>
      (Config.read text).mapError fun e => (TemplateError.config e).message

/-- Registers the scripts of the options, each of which returns its text
every time. -/
def registerScripts (e : Engine) (turns : Turns) :
    List (Text × Text) → Except TemplateError (Engine × Turns)
  | [] => .ok (e, turns)
  | (name, text) :: more =>
    match e.registerScript turns name [.json (.string text)] with
    | .ok (e, turns) => registerScripts e turns more
    | .error refused => .error refused

/-- The text of the rendered template, or the message of the first stage
that fails. -/
def evaluate (args : Arguments) (file : Text → Except Text Text) :
    Except Text Text := do
  let data ← (Json.read args.data).mapError fun e =>
    join ["Invalid JSON: ", e.message]
  let config ← args.readConfig file
  let e ← (Engine.withConfig args.template (args.applyTo config)).mapError
    TemplateError.message
  let (e, turns) ← (registerScripts e [] args.scripts).mapError
    TemplateError.message
  (e.render turns data args.validate).1.result.mapError
    TemplateError.message

/-- What a run with these arguments leaves. -/
def run (args : Arguments) (file : Text → Except Text Text) : Outcome :=
  match args.evaluate file with
  | .ok text => ⟨0, text ++ ['\n'], []⟩
  | .error message => ⟨1, [], message ++ ['\n']⟩

end Arguments

/-- What a run with this command line leaves; `file` reads a file, or
says why it cannot. -/
def run (arguments : List Text) (file : Text → Except Text Text) : Outcome :=
  match parse arguments with
  | .ok args => args.run file
  | .error (.notice .help) => ⟨0, helpText, []⟩
  | .error (.notice .version) => ⟨0, versionLine, []⟩
  | .error (.misuse misuse) =>
    ⟨2, [], join ["error: ", misuse.message, "\n"]⟩

/-- The file that a command line asks for. -/
def configPath? (arguments : List Text) : Option Text :=
  match parse arguments with
  | .ok args => args.config
  | .error _ => none

end Stencil.Command
