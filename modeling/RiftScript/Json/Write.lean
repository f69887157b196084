/-
JSON text.

The text has no spaces and only ASCII characters: everything else is written as an escape, and
characters past U+FFFF as a pair of them. Infinities and not-a-number are written as words.
-/
import RiftScript.Json.Basic
import RiftScript.Number.Text
import RiftScript.Text.Quoted

namespace RiftScript
namespace Json

/-- A 16-bit unit as an escape. -/
def unitEscape (unit : Nat) : List Char :=
  '\\' :: 'u' :: Text.hexDigits 4 unit

/-- A character inside a JSON string. -/
def stringChar (c : Char) : List Char :=
  if c = '"' then ['\\', '"']
  else if c = '\\' then ['\\', '\\']
  else if c = '\n' then ['\\', 'n']
  else if c = '\r' then ['\\', 'r']
  else if c = '\t' then ['\\', 't']
  else if c.toNat = 8 then ['\\', 'b']
  else if c.toNat = 12 then ['\\', 'f']
  else if 0x20 ≤ c.toNat ∧ c.toNat < 0x7F then [c]
  else if c.toNat < 0x10000 then unitEscape c.toNat
  else
    let n := c.toNat - 0x10000
    unitEscape (0xD800 + n / 0x400) ++ unitEscape (0xDC00 + n % 0x400)

def stringText (s : String) : List Char :=
  '"' :: s.toList.flatMap stringChar ++ ['"']

/-- A float with its shortest digits, or the word for one that has no digits. -/
def floatText (x : Float) : List Char :=
  match Number.parts x with
  | .notANumber => "NaN".toList
  | .infinite negative => Number.signed negative "Infinity".toList
  | .finite .. => (Number.text x).toList

mutual

/-- The text of a value, in front of the text that follows it. -/
def write : Json → List Char → List Char
  | null, rest => "null".toList ++ rest
  | bool true, rest => "true".toList ++ rest
  | bool false, rest => "false".toList ++ rest
  | int n, rest => (toString n).toList ++ rest
  | float x, rest => floatText x ++ rest
  | str s, rest => stringText s ++ rest
  | arr items, rest => '[' :: writeItems items (']' :: rest)
  | obj fields, rest => '{' :: writeFields fields ('}' :: rest)

def writeItems : List Json → List Char → List Char
  | [], rest => rest
  | [v], rest => v.write rest
  | v :: w :: items, rest => v.write (',' :: writeItems (w :: items) rest)

def writeFields : List (String × Json) → List Char → List Char
  | [], rest => rest
  | [(k, v)], rest => stringText k ++ ':' :: v.write rest
  | (k, v) :: field :: fields, rest =>
    stringText k ++ ':' :: v.write (',' :: writeFields (field :: fields) rest)

end

def compact (j : Json) : String :=
  String.ofList (j.write [])

end Json
end RiftScript
