/-
Paths into a document, and their written form: `user.children[0].name`.
-/
import Stencil.Text.Basic

namespace Stencil

/-- A step from a value to a part of it. -/
inductive Step where
  /-- To the member of an object with this name. -/
  | field (name : Text)
  /-- To the item of an array at this index. -/
  | index (i : Int)
deriving DecidableEq, Repr

/-- A path: the steps to take, starting at the root of a document. -/
abbrev Path := List Step

/-- How a step is written behind another one. -/
def Step.print : Step → Text
  | .field name => '.' :: name
  | .index i => '[' :: Text.ofInt i ++ [']']

/-- How a path is written; a name in front goes without its dot. -/
def Path.print : Path → Text
  | [] => []
  | .field name :: steps => name ++ steps.flatMap Step.print
  | .index i :: steps => (Step.index i).print ++ steps.flatMap Step.print

end Stencil
