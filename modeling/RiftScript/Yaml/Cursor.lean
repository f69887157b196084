/-
Reading a settings file character by character.

Indentation is part of the notation, so a cursor knows its column. Only spaces indent and
separate; a tab in such a place is not allowed.
-/

namespace RiftScript
namespace Yaml

structure Cursor where
  column : Nat
  chars : List Char
deriving Repr, DecidableEq

def isBreak (c : Char) : Bool :=
  c == '\n' || c == '\r' || c.toNat == 0x85 || c.toNat == 0x2028 || c.toNat == 0x2029

/-- Whether a token may end before this character. -/
def isGapOrBreak (c : Char) : Bool :=
  c == ' ' || c == '\t' || isBreak c

/-- Whether text is at its end or goes on with a blank or a line end. -/
def endsToken (cs : List Char) : Bool :=
  match cs with
  | [] => true
  | c :: _ => isGapOrBreak c

namespace Cursor

/-- Step over the first `n` characters, which do not end the line. -/
def drop (k : Cursor) (n : Nat) : Cursor :=
  ⟨k.column + n, k.chars.drop n⟩

def atEnd (k : Cursor) : Bool :=
  k.chars.isEmpty

/-- Whether nothing is left on the line. -/
def atLineEnd (k : Cursor) : Bool :=
  match k.chars with
  | [] => true
  | c :: _ => isBreak c

/-- Step over spaces. -/
def spaces (k : Cursor) : Cursor :=
  k.drop (k.chars.takeWhile (· == ' ')).length

/-- Step over spaces and a comment, within the line. -/
def restOfLine (k : Cursor) : Cursor :=
  let k := k.spaces
  if k.chars.head? = some '#' then k.drop (k.chars.takeWhile fun c => !isBreak c).length else k

/-- The next content from a column on, over spaces, comments and line ends. -/
def content (comment : Bool) (column : Nat) : List Char → Cursor
  | [] => ⟨column, []⟩
  | c :: cs =>
    if isBreak c then content false 0 cs
    else if comment || c == ' ' then content comment (column + 1) cs
    else if c == '#' then content true (column + 1) cs
    else ⟨column, c :: cs⟩

/-- Step over spaces, comments and line ends. -/
def next (k : Cursor) : Cursor :=
  content false k.column k.chars

end Cursor

/-- What line ends inside a scalar amount to: one is a space, and each further one stands. -/
def folded (breaks : List Char) : List Char :=
  match breaks with
  | [] => []
  | first :: more =>
    let shown := fun c => if c.toNat = 0x2028 ∨ c.toNat = 0x2029 then c else '\n'
    let rest := more.map shown
    if shown first != '\n' then shown first :: rest else if rest.isEmpty then [' '] else rest

/-- The line ends at the front of a text, among blanks, with the column and text after them. -/
def takeBreaks (isBlank : Char → Bool) (column : Nat) : List Char → List Char × Cursor
  | [] => ([], ⟨column, []⟩)
  | c :: cs =>
    if isBreak c then
      let (breaks, k) := takeBreaks isBlank 0 cs
      (c :: breaks, k)
    else if isBlank c then takeBreaks isBlank (column + 1) cs
    else ([], ⟨column, c :: cs⟩)

end Yaml
end RiftScript
