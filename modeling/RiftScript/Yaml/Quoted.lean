/-
Quoted scalars.

In single quotes a quote is written twice and nothing else is special. Double quotes have
escapes. Line ends inside either are folded.
-/
import RiftScript.Json.Read
import RiftScript.Yaml.Cursor

namespace RiftScript
namespace Yaml

def isBlankChar (c : Char) : Bool :=
  c == ' ' || c == '\t'

/-- Blanks inside quotes: kept as they are, unless a line ends among them. -/
def quotedGap (k : Cursor) : List Char × Cursor :=
  let blanks := k.chars.takeWhile isBlankChar
  let after := k.drop blanks.length
  if after.atLineEnd then
    let (breaks, k) := takeBreaks isBlankChar after.column after.chars
    (folded breaks, k)
  else (blanks, after)

/-- The character that a one-letter escape stands for. -/
def letterEscape? : Char → Option Char
  | '0' => some (Char.ofNat 0)
  | 'a' => some (Char.ofNat 7)
  | 'b' => some (Char.ofNat 8)
  | 't' | '\t' => some '\t'
  | 'n' => some '\n'
  | 'v' => some (Char.ofNat 11)
  | 'f' => some (Char.ofNat 12)
  | 'r' => some '\r'
  | 'e' => some (Char.ofNat 27)
  | ' ' => some ' '
  | '"' => some '"'
  | '/' => some '/'
  | '\\' => some '\\'
  | 'N' => some (Char.ofNat 0x85)
  | '_' => some (Char.ofNat 0xA0)
  | 'L' => some (Char.ofNat 0x2028)
  | 'P' => some (Char.ofNat 0x2029)
  | _ => none

/-- The number of hexadecimal digits after an escape that is followed by some. -/
def hexEscape? : Char → Option Nat
  | 'x' => some 2
  | 'u' => some 4
  | 'U' => some 8
  | _ => none

/-- A character by its number in hexadecimal digits. -/
def numbered? (digits : List Char) : Option Char := do
  let values ← digits.mapM Json.hexValue?
  let n := values.foldl (fun n d => 16 * n + d) 0
  if n.isValidChar then some (Char.ofNat n) else none

/-- The text of an escape, whose backslash has been read. A line end after the backslash joins the
lines without a space. -/
def escaped? (k : Cursor) : Option (List Char × Cursor) :=
  match k.chars with
  | [] => none
  | c :: cs =>
    match letterEscape? c, hexEscape? c with
    | some d, _ => some ([d], k.drop 1)
    | _, some n =>
      if (cs.take n).length = n then
        (numbered? (cs.take n)).map fun d => ([d], k.drop (n + 1))
      else none
    | _, _ =>
      if isBreak c then
        let (breaks, after) := takeBreaks isBlankChar 0 cs
        some (breaks.map fun _ => '\n', after)
      else none

/-- The rest of a quoted scalar whose opening quote has been read. -/
def quotedRest : (fuel : Nat) → (quote : Char) → Cursor → Option (List Char × Cursor)
  | 0, _, _ => none
  | fuel + 1, quote, k =>
    match k.chars with
    | [] => none
    | c :: cs =>
      let goOn := fun (text : List Char) (k : Cursor) =>
        (quotedRest fuel quote k).map fun r => (text ++ r.1, r.2)
      if c = quote then
        if quote = '\'' ∧ cs.head? = some '\'' then goOn ['\''] (k.drop 2)
        else some ([], k.drop 1)
      else if isGapOrBreak c then
        let (text, k) := quotedGap k
        goOn text k
      else if quote = '"' ∧ c = '\\' then
        (escaped? (k.drop 1)).bind fun r => goOn r.1 r.2
      else goOn [c] (k.drop 1)

/-- A quoted scalar. -/
def quoted? (k : Cursor) : Option (String × Cursor) :=
  match k.chars with
  | c :: _ =>
    if c = '"' ∨ c = '\'' then
      (quotedRest (k.chars.length + 1) c (k.drop 1)).map fun r => (String.ofList r.1, r.2)
    else none
  | [] => none

end Yaml
end RiftScript
