/-
Shortest decimals.

The decimal of a float is the one with the fewest digits that reads back as that float, and of
those the one nearest to its exact value. It is found by trying one digit, then two, and so on:
at each length only the two grid points around the exact value can be nearest.
-/
import RiftScript.Number.Parts

namespace RiftScript
namespace Number

/-- The value `digits * 10 ^ exponent`. -/
structure Decimal where
  digits : Nat
  exponent : Int
deriving Repr, DecidableEq

namespace Decimal

/-- The float nearest to a decimal. -/
def toFloat (d : Decimal) : Float :=
  if 0 ≤ d.exponent then Float.ofScientific d.digits false d.exponent.toNat
  else Float.ofScientific d.digits true (-d.exponent).toNat

/-- The same value without trailing zeros. -/
def trimmed : (fuel : Nat) → Decimal → Decimal
  | 0, d => d
  | fuel + 1, d =>
    if d.digits ≠ 0 ∧ d.digits % 10 = 0 then trimmed fuel ⟨d.digits / 10, d.exponent + 1⟩
    else d

end Decimal

/-- The number of decimal digits of `n`. -/
def digitCount (n : Nat) : Nat :=
  (Nat.toDigits 10 n).length

/-- The exponent of the leading decimal digit of the positive quotient `num / den`. -/
def leadingExponent (num den : Nat) : Int :=
  if den ≤ num then (digitCount (num / den) : Int) - 1
  else
    let places := digitCount (den / num)
    if den ≤ num * Nat.pow 10 (places - 1) then 1 - (places : Int) else -(places : Int)

/-- The two multiples of `10 ^ exponent` around `num / den`, the nearer one first and the even
one first on a tie. -/
def gridNeighbours (num den : Nat) (exponent : Int) : List Decimal :=
  let top := if 0 ≤ exponent then num else num * Nat.pow 10 (-exponent).toNat
  let bottom := if 0 ≤ exponent then den * Nat.pow 10 exponent.toNat else den
  let low : Decimal := ⟨top / bottom, exponent⟩
  let high : Decimal := ⟨top / bottom + 1, exponent⟩
  let rest := 2 * (top % bottom)
  if rest < bottom ∨ rest = bottom ∧ low.digits % 2 = 0 then [low, high] else [high, low]

/-- Seventeen digits tell any two floats apart. -/
def mostDigits : Nat := 17

/-- The shortest decimal that reads back as the positive float `x`, whose exact value is
`num / den`. -/
def shortestOf (x : Float) (num den : Nat) : Decimal :=
  let lead := leadingExponent num den
  let best := (List.range mostDigits).findSome? fun (n : Nat) =>
    (gridNeighbours num den (lead - n)).find? fun d => d.toFloat == x
  (best.getD ⟨num, 0⟩).trimmed (mostDigits + 1)

end Number
end RiftScript
