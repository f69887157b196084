/-
The exact value of a number.

Numbers are IEEE double precision floats. Everything that depends on the exact value of one
(its shortest decimal, its integer text, comparison with an integer) goes through `Parts`.
-/

namespace RiftScript
namespace Number

/-- A float taken apart. A finite one is `± mantissa * 2 ^ exponent`. -/
inductive Parts where
  | notANumber
  | infinite (negative : Bool)
  | finite (negative : Bool) (mantissa : Nat) (exponent : Int)
deriving Repr, DecidableEq

/-- The three bit fields of a double: sign, biased exponent and fraction. -/
def parts (x : Float) : Parts :=
  let bits := x.toBits.toNat
  let negative := bits / Nat.pow 2 63 == 1
  let field : Nat := bits / Nat.pow 2 52 % Nat.pow 2 11
  let fraction := bits % Nat.pow 2 52
  if field = Nat.pow 2 11 - 1 then
    if fraction = 0 then .infinite negative else .notANumber
  else if field = 0 then
    .finite negative fraction (-1074)
  else
    .finite negative (fraction + Nat.pow 2 52) ((field : Int) - 1075)

/-- A quotient of natural numbers equal to `mantissa * 2 ^ exponent`. -/
def ratio (mantissa : Nat) (exponent : Int) : Nat × Nat :=
  if 0 ≤ exponent then (mantissa * Nat.pow 2 exponent.toNat, 1)
  else (mantissa, Nat.pow 2 (-exponent).toNat)

/-- The integer a float is equal to, if it is equal to one. -/
def toInt? (x : Float) : Option Int :=
  match parts x with
  | .finite negative mantissa exponent =>
    let (num, den) := ratio mantissa exponent
    if num % den = 0 then
      some (if negative then -((num / den : Nat) : Int) else ((num / den : Nat) : Int))
    else none
  | _ => none

/-- The integer part of a finite float: the fraction is cut off. -/
def truncate? (x : Float) : Option Int :=
  match parts x with
  | .finite negative mantissa exponent =>
    let (num, den) := ratio mantissa exponent
    some (if negative then -((num / den : Nat) : Int) else ((num / den : Nat) : Int))
  | _ => none

/-- The float nearest to an integer, ties going to the even neighbour. An integer past the
largest float has none. -/
def ofInt? (n : Int) : Option Float :=
  let x := Float.ofScientific n.natAbs false 0
  if x.isInf then none
  else some (if n < 0 then -x else x)

/-- Whether an integer is at most a float, by exact comparison. -/
def intLe (n : Int) (x : Float) : Bool :=
  match parts x with
  | .notANumber => false
  | .infinite negative => !negative
  | .finite negative mantissa exponent =>
    let (num, den) := ratio mantissa exponent
    let scaled : Int := if negative then -(num : Int) else (num : Int)
    decide (n * (den : Int) ≤ scaled)

end Number
end RiftScript
