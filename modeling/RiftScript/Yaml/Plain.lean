/-
Plain scalars: text without quotes.

A plain scalar ends at a colon or a number sign that stands free, at the end of its block, and
inside brackets also at the marks that brackets use.
-/
import RiftScript.Yaml.Cursor

namespace RiftScript
namespace Yaml

/-- Marks with a meaning of their own. -/
def isMark (c : Char) : Bool :=
  "-?:,[]{}#&*!|>'\"%@".toList.contains c || c.toNat == 0x60

/-- The marks that brackets use. -/
def isBracketMark (c : Char) : Bool :=
  ",[]{}".toList.contains c

/-- Whether a plain scalar can start here. -/
def startsPlain (inBrackets : Bool) (cs : List Char) : Bool :=
  match cs with
  | [] => false
  | c :: rest =>
    !isGapOrBreak c && (!isMark c ||
      (!endsToken rest && (c == '-' || (!inBrackets && (c == '?' || c == ':')))))

/-- Whether a plain scalar goes on with `c` when `cs` follows. -/
def extendsPlain (inBrackets : Bool) (c : Char) (cs : List Char) : Bool :=
  !isGapOrBreak c
  && !(c == ':' && (endsToken cs || (inBrackets && cs.head?.any isBracketMark)))
  && !(inBrackets && (isBracketMark c || c == '?'))

/-- The characters of a plain scalar up to a blank. -/
def plainWord (inBrackets : Bool) : List Char → List Char
  | [] => []
  | c :: cs => if extendsPlain inBrackets c cs then c :: plainWord inBrackets cs else []

/-- The words of a plain scalar that stand on one line, from a word on. -/
def plainLine (inBrackets : Bool) : (fuel : Nat) → List Char → List Char
  | 0, _ => []
  | fuel + 1, cs =>
    let word := plainWord inBrackets cs
    let rest := cs.drop word.length
    let gap := rest.takeWhile (· == ' ')
    let after := rest.drop gap.length
    if word.isEmpty || gap.isEmpty || after.head? == some '#'
      || (plainWord inBrackets after).isEmpty then word
    else word ++ gap ++ plainLine inBrackets fuel after

/-- A plain scalar over lines that are indented by at least `least` columns. -/
def plainLines (inBrackets : Bool) (least : Nat) : (fuel : Nat) → Cursor → List Char × Cursor
  | 0, k => ([], k)
  | fuel + 1, k =>
    let line := plainLine inBrackets (k.chars.length + 1) k.chars
    let k := k.drop line.length
    let after := k.spaces
    if after.atEnd || !after.atLineEnd then (line, k)
    else
      let (breaks, start) := takeBreaks (· == ' ') after.column after.chars
      if start.chars.head? == some '#' || (!inBrackets && decide (start.column < least))
        || (plainWord inBrackets start.chars).isEmpty then (line, k)
      else
        let (more, k) := plainLines inBrackets least fuel start
        (line ++ folded breaks ++ more, k)

end Yaml
end RiftScript
