/-
Plain data from outside the script language.

The host of a script and its settings files hold data of more kinds than scripts have values:
whole numbers of any size, lists, mappings and sets as well. A mapping keeps the order of its
keys.
-/
import RiftScript.Number.Read
import RiftScript.Number.Text
import RiftScript.Text.Quoted

namespace RiftScript

inductive Datum where
  | null
  | bool (b : Bool)
  | int (n : Int)
  | float (x : Float)
  | text (s : String)
  | list (items : List Datum)
  | dict (entries : List (Datum × Datum))
  /-- Scalars, each listed once. -/
  | set (elements : List Datum)
deriving Repr, Inhabited

/-- Why a datum is not what is asked for. -/
inductive DatumFault where
  /-- Nothing of this type will do. -/
  | wrongType
  /-- It does not have what is asked of it. -/
  | lacking
  /-- A whole number past the largest float. -/
  | tooLarge
  /-- A text that should spell a number. -/
  | notAFloat (s : String)
  | notAnInt (s : String)
  /-- A float that is not a number has no integer part. -/
  | noInteger
deriving Repr, DecidableEq

namespace Datum

def typeName : Datum → String
  | null => "NoneType"
  | bool _ => "bool"
  | int _ => "int"
  | float _ => "float"
  | text _ => "str"
  | list _ => "list"
  | dict _ => "dict"
  | set _ => "set"

/-- Null, false, zeros and empty things are falsy. -/
def truthy : Datum → Bool
  | null => false
  | bool b => b
  | int n => n != 0
  | float x => !(x == 0.0)
  | text s => !s.isEmpty
  | list items => !items.isEmpty
  | dict entries => !entries.isEmpty
  | set elements => !elements.isEmpty

/-- Booleans count as 0 and 1 among the numbers. -/
def int? : Datum → Option Int
  | bool b => some (if b then 1 else 0)
  | int n => some n
  | _ => none

/-- Whether two scalars are the same element of a set or the same key of a mapping. Numbers are
the same when their exact values are, whatever their type. -/
def sameKey : Datum → Datum → Bool
  | null, null => true
  | text s, text t => s == t
  | float x, float y => x == y
  | float x, d => d.int?.isSome && Number.toInt? x == d.int?
  | d, float y => d.int?.isSome && Number.toInt? y == d.int?
  | d, e => d.int?.isSome && d.int? == e.int?

/-- Lists, mappings and sets can be neither elements nor keys. -/
def isKey : Datum → Bool
  | list _ | dict _ | set _ => false
  | _ => true

/-- Whether a datum is one given text. -/
def isText (s : String) : Datum → Bool
  | text t => t == s
  | _ => false

/-- Give a key of a mapping a value. A key that is there keeps its place. -/
def setKey (key value : Datum) : List (Datum × Datum) → List (Datum × Datum)
  | [] => [(key, value)]
  | entry :: rest =>
    if entry.1.sameKey key then (entry.1, value) :: rest else entry :: setKey key value rest

def lookup (key : String) (entries : List (Datum × Datum)) : Option Datum :=
  (entries.find? fun e => e.1.isText key).map Prod.snd

/-- The number a datum stands for, as a float. Texts may spell one. -/
def toFloat : Datum → Except DatumFault Float
  | bool b => .ok (if b then 1.0 else 0.0)
  | int n =>
    match Number.ofInt? n with
    | some x => .ok x
    | none => .error .tooLarge
  | float x => .ok x
  | text s =>
    match Number.ofText? s with
    | some x => .ok x
    | none => .error (.notAFloat s)
  | _ => .error .wrongType

/-- The whole number a datum stands for. Floats lose their fraction; texts may spell one. -/
def toInt : Datum → Except DatumFault Int
  | bool b => .ok (if b then 1 else 0)
  | int n => .ok n
  | float x =>
    match Number.truncate? x with
    | some n => .ok n
    | none => if x.isInf then .error .tooLarge else .error .noInteger
  | text s =>
    match Number.intOfText? s with
    | some n => .ok n
    | none => .error (.notAnInt s)
  | _ => .error .wrongType

mutual

/-- A datum inside a list or a mapping: text is quoted. -/
def inner : Datum → String
  | null => "None"
  | bool true => "True"
  | bool false => "False"
  | int n => toString n
  | float x => Number.text x
  | text s => Text.quoted s
  | list items => "[" ++ ", ".intercalate (innerItems items) ++ "]"
  | dict entries => r"{" ++ ", ".intercalate (innerEntries entries) ++ r"}"
  | set [] => "set()"
  | set elements => r"{" ++ ", ".intercalate (innerItems elements) ++ r"}"

def innerItems : List Datum → List String
  | [] => []
  | d :: ds => d.inner :: innerItems ds

def innerEntries : List (Datum × Datum) → List String
  | [] => []
  | (k, v) :: rest => (k.inner ++ ": " ++ v.inner) :: innerEntries rest

end

/-- A datum as text. -/
def display : Datum → String
  | text s => s
  | d => d.inner

/-- A datum as text, with floats that are whole numbers written as such. -/
def plain : Datum → String
  | float x => Number.plain x
  | d => d.display

end Datum

namespace DatumFault

/-- The most of a text that is shown when it should spell a whole number. -/
def longestShown : Nat := 200

/-- The faults that name the text at fault. -/
def message? : DatumFault → Option String
  | notAFloat s => some s!"could not convert string to float: {Text.quoted s}"
  | notAnInt s =>
    let shown := String.ofList ((Text.quoted s).toList.take longestShown)
    some s!"invalid literal for int() with base 10: {shown}"
  | noInteger => some "cannot convert float NaN to integer"
  | _ => none

end DatumFault

end RiftScript
