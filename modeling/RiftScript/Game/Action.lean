/-
Actions that scripts have performed.
-/
import RiftScript.Value

namespace RiftScript

/-- One action with its arguments and the line it was called on. -/
structure ActionRecord where
  name : String
  arguments : List Value
  line : Int
deriving Repr, DecidableEq

namespace ActionRecord

/-- An action as a call. -/
def display (a : ActionRecord) : String :=
  a.name ++ "(" ++ ", ".intercalate (a.arguments.map Value.display) ++ ")"

end ActionRecord
end RiftScript
