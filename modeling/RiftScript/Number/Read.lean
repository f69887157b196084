/-
Reading numbers.

`ofDigits` reads the digits of a number in a script. `ofText?` reads what a person may write in a
settings file: blanks around it, a sign, digits of any script with single underscores between
them, a fraction, an exponent, and the words for infinity and not-a-number.
-/
import RiftScript.Number.Shortest
import RiftScript.Text.Blank
import RiftScript.Text.Case
import RiftScript.Text.Digit

namespace RiftScript
namespace Number

/-- The value of a list of digits, most significant first. -/
def digitsValue (digits : List Nat) : Nat :=
  digits.foldl (fun n d => 10 * n + d) 0

/-- The float nearest to `whole.fraction * 10 ^ exponent`. Exponents far outside the range of
floats are settled without computing the power. -/
def ofDigits (whole fraction : List Nat) (exponent : Int) : Float :=
  let mantissa := digitsValue (whole ++ fraction)
  let scale := exponent - fraction.length
  if mantissa = 0 then 0.0
  else if 400 < digitCount mantissa + scale then 1.0 / 0.0
  else if digitCount mantissa + scale < -400 then 0.0
  else Decimal.toFloat ⟨mantissa, scale⟩

/-- Digits of any script with single underscores between them, and what follows. An underscore
that has no digit on both sides ends the run. The flag tells whether a digit has just been read. -/
def digitRun (after : Bool) : List Char → List Nat × List Char
  | [] => ([], [])
  | c :: cs =>
    match Text.digitValue? c with
    | some d =>
      let (ds, rest) := digitRun true cs
      (d :: ds, rest)
    | none =>
      if after && c == '_' && (cs.head?.bind Text.digitValue?).isSome then digitRun false cs
      else ([], c :: cs)

/-- An optional sign. -/
def signOf : List Char → Bool × List Char
  | '-' :: cs => (true, cs)
  | '+' :: cs => (false, cs)
  | cs => (false, cs)

/-- The exponent part of a decimal: nothing, or a mark, an optional sign and digits. -/
def exponentPart : List Char → Option Int
  | [] => some 0
  | c :: cs =>
    if c = 'e' ∨ c = 'E' then
      let (negative, cs) := signOf cs
      match digitRun false cs with
      | ([], _) => none
      | (ds, []) => some (if negative then -(digitsValue ds : Int) else (digitsValue ds : Int))
      | _ => none
    else none

/-- A decimal without its sign. A point needs a digit on one side. -/
def unsigned? (cs : List Char) : Option Float :=
  let (whole, rest) := digitRun false cs
  match rest with
  | '.' :: rest =>
    let (fraction, rest) := digitRun false rest
    if whole.isEmpty && fraction.isEmpty then none
    else (exponentPart rest).map (ofDigits whole fraction)
  | rest => if whole.isEmpty then none else (exponentPart rest).map (ofDigits whole [])

/-- The words for numbers that have no digits. -/
def word? (cs : List Char) : Option Float :=
  let name := String.ofList (Text.lowerCase cs)
  if name = "inf" ∨ name = "infinity" then some (1.0 / 0.0)
  else if name = "nan" then some (0.0 / 0.0)
  else none

/-- Blanks that may stand around a number. The information separators may not. -/
def isMargin (c : Char) : Bool :=
  Text.isBlank c && !(0x1C ≤ c.toNat && c.toNat ≤ 0x1F)

/-- The float that a text stands for, if it stands for one. -/
def ofText? (s : String) : Option Float :=
  let (negative, cs) := signOf (Text.trimBy isMargin s.toList)
  ((word? cs).or (unsigned? cs)).map fun x => if negative then -x else x

/-- The integer that a text stands for, if it stands for one. -/
def intOfText? (s : String) : Option Int :=
  let (negative, cs) := signOf (Text.trimBy isMargin s.toList)
  match digitRun false cs with
  | ([], _) => none
  | (ds, []) => some (if negative then -(digitsValue ds : Int) else (digitsValue ds : Int))
  | _ => none

end Number
end RiftScript
