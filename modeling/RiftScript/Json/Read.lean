/-
Reading JSON text.

A reader gives what it found at the front of a text and the rest of the text. Besides standard
JSON, the words `NaN`, `Infinity` and `-Infinity` are read as numbers. A number with a fraction or
an exponent is a float, any other is a whole number.
-/
import RiftScript.Json.Basic
import RiftScript.Number.Read

namespace RiftScript
namespace Json

def isSpace (c : Char) : Bool :=
  c == ' ' || c == '\t' || c == '\n' || c == '\r'

def skipSpace (cs : List Char) : List Char :=
  cs.dropWhile isSpace

def hexValue? (c : Char) : Option Nat :=
  if '0' ≤ c ∧ c ≤ '9' then some (c.toNat - '0'.toNat)
  else if 'a' ≤ c ∧ c ≤ 'f' then some (c.toNat - 'a'.toNat + 10)
  else if 'A' ≤ c ∧ c ≤ 'F' then some (c.toNat - 'A'.toNat + 10)
  else none

/-- The number that four hexadecimal digits at the front spell. -/
def unit? : List Char → Option Nat
  | a :: b :: c :: d :: _ => do
    some (((← hexValue? a) * 16 + (← hexValue? b)) * 256 + (← hexValue? c) * 16 + (← hexValue? d))
  | _ => none

/-- The second half of a character past U+FFFF, if it follows its first half. -/
def lowHalf? : List Char → Option Nat
  | '\\' :: 'u' :: cs => do
    let low ← unit? cs
    if 0xDC00 ≤ low ∧ low < 0xE000 then some low else none
  | _ => none

/-- The character of a numeric escape and the length of its digits, those of a second half
included. Half a pair that stands alone is no character and gives the replacement character. -/
def numericEscape? (cs : List Char) : Option (Char × Nat) := do
  let unit ← unit? cs
  if 0xD800 ≤ unit ∧ unit < 0xDC00 then
    match lowHalf? (cs.drop 4) with
    | some low => some (Char.ofNat (0x10000 + (unit - 0xD800) * 0x400 + (low - 0xDC00)), 10)
    | none => some (Char.ofNat 0xFFFD, 4)
  else if 0xDC00 ≤ unit ∧ unit < 0xE000 then some (Char.ofNat 0xFFFD, 4)
  else some (Char.ofNat unit, 4)

/-- The character that an escape stands for and the length of the escape without its backslash. -/
def escape? : List Char → Option (Char × Nat)
  | '"' :: _ => some ('"', 1)
  | '\\' :: _ => some ('\\', 1)
  | '/' :: _ => some ('/', 1)
  | 'b' :: _ => some (Char.ofNat 8, 1)
  | 'f' :: _ => some (Char.ofNat 12, 1)
  | 'n' :: _ => some ('\n', 1)
  | 'r' :: _ => some ('\r', 1)
  | 't' :: _ => some ('\t', 1)
  | 'u' :: cs => (numericEscape? cs).map fun r => (r.1, r.2 + 1)
  | _ => none

/-- The rest of a string whose opening quote has been read, after `skip` characters that belong
to the escape before. -/
def stringBody : (skip : Nat) → List Char → Option (List Char × List Char)
  | _, [] => none
  | skip + 1, _ :: cs => stringBody skip cs
  | 0, c :: cs =>
    if c = '"' then some ([], cs)
    else if c = '\\' then do
      let (d, length) ← escape? cs
      let (more, rest) ← stringBody length cs
      some (d :: more, rest)
    else if c.toNat < 0x20 then none
    else do
      let (more, rest) ← stringBody 0 cs
      some (c :: more, rest)

/-- A string. -/
def string? : List Char → Option (String × List Char)
  | '"' :: cs => (stringBody 0 cs).map fun r => (String.ofList r.1, r.2)
  | _ => none

def digits (cs : List Char) : List Nat × List Char :=
  ((cs.takeWhile Text.isAsciiDigit).map fun c => c.toNat - '0'.toNat,
    cs.dropWhile Text.isAsciiDigit)

/-- The digits after a point, if a point and a digit come next. -/
def fraction? : List Char → Option (List Nat × List Char)
  | '.' :: cs =>
    match digits cs with
    | ([], _) => none
    | (ds, rest) => some (ds, rest)
  | _ => none

/-- The exponent after its mark, if a mark and a digit come next. -/
def exponent? : List Char → Option (Int × List Char)
  | c :: cs =>
    if c = 'e' ∨ c = 'E' then
      let (negative, cs) := Number.signOf cs
      match digits cs with
      | ([], _) => none
      | (ds, rest) =>
        let n : Int := Number.digitsValue ds
        some (if negative then -n else n, rest)
    else none
  | [] => none

/-- The digits before the point: a single zero or no leading zero. -/
def whole? : List Char → Option (List Nat × List Char)
  | '0' :: rest => some ([0], rest)
  | cs =>
    match digits cs with
    | ([], _) => none
    | (ds, rest) => some (ds, rest)

/-- A number. -/
def number? (cs : List Char) : Option (Json × List Char) := do
  let (negative, cs) := match cs with
    | '-' :: rest => (true, rest)
    | cs => (false, cs)
  let (whole, rest) ← whole? cs
  let (part, afterPart) := match fraction? rest with
    | some (ds, rest) => (some ds, rest)
    | none => (none, rest)
  let (power, afterPower) := match exponent? afterPart with
    | some (n, rest) => (some n, rest)
    | none => (none, afterPart)
  if part.isNone && power.isNone then
    let n : Int := Number.digitsValue whole
    some (int (if negative then -n else n), afterPower)
  else
    let x := Number.ofDigits whole (part.getD []) (power.getD 0)
    some (float (if negative then -x else x), afterPower)

/-- The text after a word, if the word comes first. -/
def word? (word : String) (cs : List Char) : Option (List Char) :=
  if word.toList.isPrefixOf cs then some (cs.drop word.length) else none

/-- A word or a number. -/
def atom? (cs : List Char) : Option (Json × List Char) :=
  match word? "null" cs, word? "true" cs, word? "false" cs, word? "NaN" cs, word? "Infinity" cs,
      word? "-Infinity" cs with
  | some rest, _, _, _, _, _ => some (null, rest)
  | _, some rest, _, _, _, _ => some (bool true, rest)
  | _, _, some rest, _, _, _ => some (bool false, rest)
  | _, _, _, some rest, _, _ => some (float (0.0 / 0.0), rest)
  | _, _, _, _, some rest, _ => some (float (1.0 / 0.0), rest)
  | _, _, _, _, _, some rest => some (float (-1.0 / 0.0), rest)
  | _, _, _, _, _, _ => number? cs

mutual

/-- A value, with no blanks in front of it. -/
def value? : (fuel : Nat) → List Char → Option (Json × List Char)
  | 0, _ => none
  | _ + 1, [] => none
  | fuel + 1, c :: cs =>
    match c with
    | '"' => (string? (c :: cs)).map fun r => (str r.1, r.2)
    | '[' =>
      match skipSpace cs with
      | ']' :: rest => some (arr [], rest)
      | cs => (items? fuel cs).map fun r => (arr r.1, r.2)
    | '{' =>
      match skipSpace cs with
      | '}' :: rest => some (obj [], rest)
      | cs => (fields? fuel [] cs).map fun r => (obj r.1, r.2)
    | _ => atom? (c :: cs)

/-- Values separated by commas, up to the closing bracket. -/
def items? : (fuel : Nat) → List Char → Option (List Json × List Char)
  | 0, _ => none
  | fuel + 1, cs => do
    let (item, rest) ← value? fuel cs
    match skipSpace rest with
    | ']' :: rest => some ([item], rest)
    | ',' :: rest =>
      let (more, rest) ← items? fuel (skipSpace rest)
      some (item :: more, rest)
    | _ => none

/-- Fields separated by commas, up to the closing brace, added to those already read. -/
def fields? : (fuel : Nat) → List (String × Json) → List Char →
    Option (List (String × Json) × List Char)
  | 0, _, _ => none
  | fuel + 1, seen, cs => do
    let (key, rest) ← string? cs
    match skipSpace rest with
    | ':' :: rest =>
      let (item, rest) ← value? fuel (skipSpace rest)
      let seen := setField key item seen
      match skipSpace rest with
      | '}' :: rest => some (seen, rest)
      | ',' :: rest => fields? fuel seen (skipSpace rest)
      | _ => none
    | _ => none

end

/-- The document that is all of a text, blanks around it apart. -/
def parse? (text : String) : Option Json := do
  let cs := skipSpace text.toList
  let (document, rest) ← value? (2 * cs.length + 2) cs
  if (skipSpace rest).isEmpty then some document else none

end Json
end RiftScript
