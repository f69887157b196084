/-
Letter case, as far as ASCII words need it.

Words are compared with ASCII words after their case has been folded. Besides the ASCII letters
themselves, the dotless i and the long s are the only characters whose capital is one of the
letters that occur in those words.
-/
import RiftScript.Text.Letter

namespace RiftScript
namespace Text

def smallLetter (c : Char) : Char :=
  if 'A' ≤ c && c ≤ 'Z' then Char.ofNat (c.toNat + 32) else c

def capitalLetter (c : Char) : Char :=
  if 'a' ≤ c && c ≤ 'z' then Char.ofNat (c.toNat - 32)
  else if c.toNat = 0x131 then 'I'
  else if c.toNat = 0x17F then 'S'
  else c

def lowerCase (cs : List Char) : List Char :=
  cs.map smallLetter

def upperCase (cs : List Char) : List Char :=
  cs.map capitalLetter

end Text
end RiftScript
