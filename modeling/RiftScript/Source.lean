/-
Script files as text.

A file is read as UTF-8, without a byte order mark at its front. A file that ends within the mark
is empty. Any other file that is not UTF-8 is read as Latin-1, which gives every byte the character
of the same number. In either case every kind of line end becomes a single newline.
-/

namespace RiftScript
namespace Source

/-- Carriage returns, alone or before a newline, become newlines. -/
def joinLines : List Char → List Char
  | [] => []
  | c :: cs =>
    if c = '\r' then
      match cs with
      | '\n' :: rest => '\n' :: joinLines rest
      | cs => '\n' :: joinLines cs
    else c :: joinLines cs

/-- Text without a byte order mark at its front. -/
def dropMark : List Char → List Char
  | [] => []
  | c :: cs => if c.toNat = 0xFEFF then cs else c :: cs

/-- The characters of the bytes themselves. -/
def latin1 (bytes : ByteArray) : List Char :=
  bytes.toList.map fun b => Char.ofNat b.toNat

/-- The bytes of a byte order mark. -/
def markBytes : List UInt8 := [0xEF, 0xBB, 0xBF]

/-- The text of a script file. -/
def decode (bytes : ByteArray) : String :=
  let chars :=
    if bytes.toList.isPrefixOf markBytes then []
    else
      match String.fromUTF8? bytes with
      | some s => dropMark s.toList
      | none => latin1 bytes
  String.ofList (joinLines chars)

/-- The text of a settings file, which has to be UTF-8. -/
def decodeStrict? (bytes : ByteArray) : Option String :=
  (String.fromUTF8? bytes).map fun s => String.ofList (joinLines s.toList)

end Source
end RiftScript
