/-
What plain scalars stand for.

A scalar without quotes stands for null, a boolean or a number if it is spelled like one, and for
itself otherwise. Numbers may have underscores among their digits, may be binary, octal or
hexadecimal, and may be written in groups of sixty like times of the day.
-/
import RiftScript.Datum.Basic

namespace RiftScript
namespace Yaml

def isNull (s : String) : Bool :=
  ["", "~", "null", "Null", "NULL"].contains s

def bool? (s : String) : Option Bool :=
  if ["yes", "Yes", "YES", "true", "True", "TRUE", "on", "On", "ON"].contains s then some true
  else if ["no", "No", "NO", "false", "False", "FALSE", "off", "Off", "OFF"].contains s then
    some false
  else none

/-- The value of a digit in a base, as far as it is one. -/
def digitIn? (base : Nat) (c : Char) : Option Nat :=
  let value :=
    if '0' ≤ c ∧ c ≤ '9' then some (c.toNat - '0'.toNat)
    else if 'a' ≤ c ∧ c ≤ 'f' then some (c.toNat - 'a'.toNat + 10)
    else if 'A' ≤ c ∧ c ≤ 'F' then some (c.toNat - 'A'.toNat + 10)
    else none
  value.filter (· < base)

def isDigitOrUnderscore (base : Nat) (c : Char) : Bool :=
  c == '_' || (digitIn? base c).isSome

/-- The number that digits of a base spell, underscores apart. -/
def valueIn (base : Nat) (cs : List Char) : Nat :=
  (cs.filterMap (digitIn? base)).foldl (fun n d => base * n + d) 0

/-- Digits and underscores, of which there is at least one. -/
def run? (base : Nat) (cs : List Char) : Option Nat :=
  if !cs.isEmpty && cs.all (isDigitOrUnderscore base) then some (valueIn base cs) else none

/-- The parts of a text between colons. -/
def groups (cs : List Char) : List (List Char) :=
  cs.splitBy (fun a b => a != ':' && b != ':') |>.filter (· != [':'])

/-- Whether every colon has text on both sides. -/
def wellGrouped (cs : List Char) : Bool :=
  (cs.filter (· == ':')).length + 1 == (groups cs).length

/-- A group after the first: at most two digits, below sixty. -/
def sixtieth? (cs : List Char) : Option Nat :=
  match cs with
  | [a] => digitIn? 10 a
  | [a, b] => do
    let n := 10 * (← digitIn? 10 a) + (← digitIn? 10 b)
    if n < 60 then some n else none
  | _ => none

/-- A first group and the groups after it, each counting for sixty of the next. -/
def sexagesimal? (first : Nat) (rest : List (List Char)) : Option Nat :=
  rest.foldlM (fun n cs => (sixtieth? cs).map (60 * n + ·)) first

/-- A natural number in one of the notations for whole numbers. -/
def natural? (cs : List Char) : Option Nat :=
  match cs with
  | '0' :: 'b' :: digits => run? 2 digits
  | '0' :: 'x' :: digits => run? 16 digits
  | ['0'] => some 0
  | '0' :: digits => run? 8 digits
  | first :: _ =>
    if (digitIn? 10 first).isNone then none
    else if cs.contains ':' then
      match groups cs with
      | whole :: rest =>
        if wellGrouped cs then (run? 10 whole).bind (sexagesimal? · rest) else none
      | [] => none
    else run? 10 cs
  | [] => none

def int? (s : String) : Option Int :=
  let (negative, cs) := Number.signOf s.toList
  (natural? cs).map fun n => if negative then -(n : Int) else (n : Int)

/-- The exponent of a float: a mark, a sign and digits, or nothing. -/
def exponent? : List Char → Option Int
  | [] => some 0
  | mark :: sign :: digits =>
    if (mark = 'e' ∨ mark = 'E') ∧ (sign = '+' ∨ sign = '-') ∧ !digits.isEmpty ∧
        digits.all (fun c => (digitIn? 10 c).isSome) then
      let n : Int := valueIn 10 digits
      some (if sign = '-' then -n else n)
    else none
  | _ => none

def digitsOf (cs : List Char) : List Nat :=
  cs.filterMap (digitIn? 10)

/-- A float without its sign. It needs a point, and a digit in front of the point or right after
it. -/
def unsignedFloat? (signed : Bool) (cs : List Char) : Option Float :=
  let whole := cs.takeWhile (· != '.')
  match cs.dropWhile (· != '.') with
  | [] => none
  | _ :: rest =>
    let fraction := rest.takeWhile (isDigitOrUnderscore 10)
    let after := rest.dropWhile (isDigitOrUnderscore 10)
    let startsWithDigit := fun (ds : List Char) => (ds.head?.bind (digitIn? 10)).isSome
    if whole.isEmpty then
      if !signed && startsWithDigit fraction then
        (exponent? after).map (Number.ofDigits [] (digitsOf fraction))
      else none
    else if startsWithDigit whole && whole.all (isDigitOrUnderscore 10) then
      (exponent? after).map (Number.ofDigits (digitsOf whole) (digitsOf fraction))
    else if startsWithDigit whole && wellGrouped whole && after.isEmpty then do
      let first :: rest := groups whole | none
      let n ← sexagesimal? (← run? 10 first) rest
      some (Number.ofDigits (digitsOf (toString n).toList) (digitsOf fraction) 0)
    else none

def float? (s : String) : Option Float :=
  if [".nan", ".NaN", ".NAN"].contains s then some (0.0 / 0.0)
  else
    let (negative, cs) := Number.signOf s.toList
    let size :=
      if [".inf", ".Inf", ".INF"].contains (String.ofList cs) then some (1.0 / 0.0)
      else unsignedFloat? (decide (cs.length < s.length)) cs
    size.map fun x => if negative then -x else x

/-- What a plain scalar stands for. Two spellings are reserved and stand for nothing. -/
def plain? (s : String) : Option Datum :=
  if s = "=" ∨ s = "<<" then none
  else if isNull s then some .null
  else
    match bool? s, int? s, float? s with
    | some b, _, _ => some (.bool b)
    | _, some n, _ => some (.int n)
    | _, _, some x => some (.float x)
    | _, _, _ => some (.text s)

end Yaml
end RiftScript
