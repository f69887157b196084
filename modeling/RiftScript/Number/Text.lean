/-
Number text.

Two forms are written. `text` is positional for leading exponents from -4 to 15 and always shows
that the value is not an integer type; other exponents are written with a sign and at least two
digits. `plain` writes a whole number as an integer, however large, and anything else as `text`.
-/
import RiftScript.Number.Shortest

namespace RiftScript
namespace Number

/-- How the digits of a decimal are laid out. -/
structure Layout where
  /-- The least leading exponent that is written positionally. -/
  least : Int
  /-- The greatest leading exponent that is written positionally. -/
  greatest : Int
  /-- The least number of exponent digits. -/
  exponentWidth : Nat

/-- Positional from 0.0001 up to sixteen digits before the point; `1e+16` and `1e-05` beyond. -/
def layout : Layout := ⟨-4, 15, 2⟩

def zeros (n : Nat) : List Char :=
  List.replicate n '0'

/-- Digits of `n`, padded with zeros on the left. -/
def padded (width n : Nat) : List Char :=
  let digits := Nat.toDigits 10 n
  zeros (width - digits.length) ++ digits

namespace Layout

/-- The text of a positive decimal without trailing zeros. -/
def write (l : Layout) (d : Decimal) : List Char :=
  let digits := Nat.toDigits 10 d.digits
  let lead := d.exponent + digits.length - 1
  if l.least ≤ lead ∧ lead ≤ l.greatest then
    if lead < 0 then '0' :: '.' :: zeros (-lead - 1).toNat ++ digits
    else if 0 ≤ d.exponent then digits ++ zeros d.exponent.toNat ++ ['.', '0']
    else digits.take (lead.toNat + 1) ++ '.' :: digits.drop (lead.toNat + 1)
  else
    let mantissa :=
      match digits with
      | [] => []
      | [first] => [first]
      | first :: more => first :: '.' :: more
    let sign := if lead < 0 then '-' else '+'
    mantissa ++ 'e' :: sign :: padded l.exponentWidth lead.natAbs

end Layout

def signed (negative : Bool) (cs : List Char) : List Char :=
  if negative then '-' :: cs else cs

/-- The text of a float with its shortest digits. -/
def text (x : Float) : String :=
  match parts x with
  | .notANumber => "nan"
  | .infinite negative => String.ofList (signed negative ['i', 'n', 'f'])
  | .finite negative 0 _ => String.ofList (signed negative ['0', '.', '0'])
  | .finite negative mantissa exponent =>
    let (num, den) := ratio mantissa exponent
    String.ofList (signed negative (layout.write (shortestOf x.abs num den)))

/-- Whole numbers are written without a fraction. -/
def plain (x : Float) : String :=
  match toInt? x with
  | some n => toString n
  | none => text x

end Number
end RiftScript
