/-
The program: a template and JSON data on the command line, the rendered
text on the output.
-/
import Stencil.Command.Run

namespace Stencil.Command

/-- The wording of an error of the operating system, with its number. The
number may come with its sign reversed, as a 32-bit word. -/
def systemError : IO.Error → String
  | .noFileOrDirectory _ code details => numbered details code
  | .permissionDenied _ code details => numbered details code
  | .inappropriateType _ code details => numbered details code
  | .invalidArgument _ code "name too long" =>
    numbered "file name too long" code
  | e => toString e
where
  numbered (details : String) (code : UInt32) : String :=
    let number := if code < 0x80000000 then code else 0 - code
    details.capitalize ++ " (os error " ++ toString number ++ ")"

/-- The contents of a file, or why it cannot be read. -/
def readFile (path : Text) : IO (Except Text Text) := do
  try
    let bytes ← IO.FS.readBinFile (String.ofList path)
    match String.fromUTF8? bytes with
    | some text => return .ok text.toList
    | none => return .error "stream did not contain valid UTF-8".toList
  catch e => return .error (systemError e).toList

end Stencil.Command

open Stencil in
/-- Runs the command line and leaves its outcome. -/
def main (args : List String) : IO UInt32 := do
  let arguments := args.map String.toList
  let contents ←
    match Command.configPath? arguments with
    | some path => Command.readFile path
    | none => pure (.ok [])
  let outcome := Command.run arguments fun _ => contents
  IO.print (String.ofList outcome.stdout)
  IO.eprint (String.ofList outcome.stderr)
  return outcome.code.toUInt32
