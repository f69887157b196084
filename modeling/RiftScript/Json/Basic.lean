/-
JSON documents.

Whole numbers and floats are told apart, and the fields of an object keep their order. A field
that is given again keeps its place and takes the new value.
-/

namespace RiftScript

inductive Json where
  | null
  | bool (b : Bool)
  | int (n : Int)
  | float (x : Float)
  | str (s : String)
  | arr (items : List Json)
  | obj (fields : List (String × Json))
deriving Repr, Inhabited

namespace Json

/-- Give a field a value. -/
def setField (key : String) (value : Json) : List (String × Json) → List (String × Json)
  | [] => [(key, value)]
  | field :: rest =>
    if field.1 = key then (key, value) :: rest else field :: setField key value rest

def field? (key : String) (fields : List (String × Json)) : Option Json :=
  fields.lookup key

end Json
end RiftScript
