/-
Values of the script language: nil, booleans, numbers and text.

Scripts produce no other values. A tree that a host has built itself may hold any other datum as a
literal; such a value can be passed on and compared, and no operator takes it.
-/
import RiftScript.Datum.Same

namespace RiftScript

inductive Value where
  | nil
  | boolean (b : Bool)
  | number (x : Float)
  | text (s : String)
  /-- A datum of a host that is none of the above. -/
  | foreign (d : Datum)
deriving Repr, DecidableEq, Inhabited

namespace Value

/-- Only nil and false are falsy; zero and the empty text are not. -/
def truthy : Value → Bool
  | nil => false
  | boolean b => b
  | _ => true

/-- Equality as scripts see it. Values of different kinds are never equal, and numbers compare as
numbers do: not-a-number differs from itself and the two zeros are equal. Foreign data of different
types are not equal either. -/
def same : Value → Value → Bool
  | nil, nil => true
  | boolean a, boolean b => a == b
  | number x, number y => x == y
  | text s, text t => s == t
  | foreign d, foreign e => d.typeName == e.typeName && d.same e
  | _, _ => false

/-- The text a value turns into when it is shown or joined to a text. -/
def display : Value → String
  | nil => "nil"
  | boolean true => "true"
  | boolean false => "false"
  | number x => Number.plain x
  | text s => s
  | foreign d => d.display

/-- The text of a value as a literal: like `display`, with text in double quotes. -/
def literal : Value → String
  | text s => "\"" ++ s ++ "\""
  | v => v.display

def kindName : Value → String
  | nil => "nil"
  | boolean _ => "boolean"
  | number _ => "number"
  | text _ | foreign _ => "text"

def isNumber : Value → Bool
  | number _ => true
  | _ => false

def isText : Value → Bool
  | text _ => true
  | _ => false

def isForeign : Value → Bool
  | foreign _ => true
  | _ => false

/-- The form in which token listings show a literal. -/
def listed : Value → String
  | nil => "None"
  | boolean true => "True"
  | boolean false => "False"
  | number x => Number.text x
  | text s => Text.quoted s
  | foreign d => d.inner

def toDatum : Value → Datum
  | nil => .null
  | boolean b => .bool b
  | number x => .float x
  | text s => .text s
  | foreign d => d

/-- A datum as it is. -/
def ofRaw : Datum → Value
  | .null => nil
  | .bool b => boolean b
  | .float x => number x
  | .text s => text s
  | d => foreign d

/-- The value a datum stands for. Whole numbers become floats. -/
def ofDatum : Datum → Except DatumFault Value
  | .null => .ok nil
  | .bool b => .ok (boolean b)
  | .int n =>
    match Number.ofInt? n with
    | some x => .ok (number x)
    | none => .error .tooLarge
  | .float x => .ok (number x)
  | .text s => .ok (text s)
  | .list _ | .dict _ | .set _ => .error .wrongType

end Value
end RiftScript
