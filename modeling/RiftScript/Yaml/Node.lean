/-
Mappings, lists and scalars.

Blocks are nested by indentation: the entries of a mapping or a list start in one column. In
brackets, entries are separated by commas and may be spread over lines at will. What does not fit
this notation is malformed, and nothing is read from it.
-/
import RiftScript.Yaml.Plain
import RiftScript.Yaml.Quoted
import RiftScript.Yaml.Scalar

namespace RiftScript
namespace Yaml

/-- The longest text that is looked through for the colon after a key. -/
def longestKey : Nat := 1024

/-- A key and the place after its colon. Key and colon stand on one line. -/
def key? (inBrackets : Bool) (k : Cursor) : Option (Datum × Cursor) := do
  let (key, after) ← match quoted? k with
    | some (s, after) => some (Datum.text s, after)
    | none =>
      if startsPlain inBrackets k.chars then
        let line := plainLine inBrackets (k.chars.length + 1) k.chars
        (plain? (String.ofList line)).map (·, k.drop line.length)
      else none
  let used := k.chars.take (k.chars.length - after.chars.length)
  let colon := after.spaces
  match colon.chars with
  | ':' :: rest =>
    if (inBrackets || endsToken rest) && !used.any isBreak && decide (used.length ≤ longestKey) then
      some (key, colon.drop 1)
    else none
  | _ => none

/-- A scalar whose further lines, if it is plain, are indented by at least `least` columns. -/
def scalar? (inBrackets : Bool) (least : Nat) (k : Cursor) : Option (Datum × Cursor) :=
  match quoted? k with
  | some (s, after) => some (.text s, after)
  | none =>
    if startsPlain inBrackets k.chars then
      let (text, after) := plainLines inBrackets least (k.chars.length + 1) k
      (plain? (String.ofList text)).map (·, after)
    else none

mutual

/-- What stands inside brackets at a cursor. -/
def flowNode? : (fuel : Nat) → Cursor → Option (Datum × Cursor)
  | 0, _ => none
  | fuel + 1, k =>
    match k.chars with
    | '[' :: _ => (flowItems? fuel [] (k.drop 1).next).map fun r => (.list r.1, r.2)
    | '{' :: _ => (flowEntries? fuel [] (k.drop 1).next).map fun r => (.dict r.1, r.2)
    | _ => scalar? true 0 k

/-- The value after a key inside brackets. It may be left out. -/
def flowValue? : (fuel : Nat) → (closing : Char) → Cursor → Option (Datum × Cursor)
  | 0, _, _ => none
  | fuel + 1, closing, k =>
    match k.next.chars with
    | [] => none
    | c :: _ => if c = ',' ∨ c = closing then some (.null, k.next) else flowNode? fuel k.next

/-- The items of a list in brackets, after those in `seen`. A single pair is a mapping. -/
def flowItems? : (fuel : Nat) → (seen : List Datum) → Cursor → Option (List Datum × Cursor)
  | 0, _, _ => none
  | fuel + 1, seen, k =>
    if k.chars.head? = some ']' then some (seen, k.drop 1)
    else do
      let (item, after) ← match key? true k with
        | some (key, after) => do
          let (value, after) ← flowValue? fuel ']' after
          some (Datum.dict [(key, value)], after)
        | none => flowNode? fuel k
      match after.next.chars with
      | ',' :: _ => flowItems? fuel (seen ++ [item]) (after.next.drop 1).next
      | ']' :: _ => some (seen ++ [item], after.next.drop 1)
      | _ => none

/-- The entries of a mapping in braces, after those in `seen`. A key may stand alone. -/
def flowEntries? : (fuel : Nat) → (seen : List (Datum × Datum)) → Cursor →
    Option (List (Datum × Datum) × Cursor)
  | 0, _, _ => none
  | fuel + 1, seen, k =>
    if k.chars.head? = some '}' then some (seen, k.drop 1)
    else do
      let (key, value, after) ← match key? true k with
        | some (key, after) => do
          let (value, after) ← flowValue? fuel '}' after
          some (key, value, after)
        | none => (flowNode? fuel k).map fun r => (r.1, Datum.null, r.2)
      if !key.isKey then none
      else
        let seen := Datum.setKey key value seen
        match after.next.chars with
        | ',' :: _ => flowEntries? fuel seen (after.next.drop 1).next
        | '}' :: _ => some (seen, after.next.drop 1)
        | _ => none

end

/-- Whether a list item starts here. -/
def startsItem (k : Cursor) : Bool :=
  match k.chars with
  | '-' :: rest => endsToken rest
  | _ => false

/-- A scalar or something in brackets that ends with its line. Further lines of a plain scalar are
indented by at least `least` columns. -/
def inline? (least : Nat) (k : Cursor) : Option (Datum × Cursor) := do
  let (d, after) ← match k.chars with
    | '[' :: _ | '{' :: _ => flowNode? (4 * k.chars.length + 4) k
    | _ => scalar? false least k
  if after.restOfLine.atLineEnd then some (d, after) else none

mutual

/-- What stands in a block whose lines are indented by at least `least` columns. -/
def block? : (fuel : Nat) → (least : Nat) → Cursor → Option (Datum × Cursor)
  | 0, _, _ => none
  | fuel + 1, least, k =>
    if startsItem k then (items? fuel false k.column [] k).map fun r => (.list r.1, r.2)
    else if (key? false k).isSome then
      (entries? fuel k.column [] k).map fun r => (.dict r.1, r.2)
    else inline? least k

/-- The items of a list in a column, after those in `seen`. A list that is the value of a key may
stand in the column of that key, which then ends it. -/
def items? : (fuel : Nat) → (underKey : Bool) → (column : Nat) → (seen : List Datum) → Cursor →
    Option (List Datum × Cursor)
  | 0, _, _, _, _ => none
  | fuel + 1, underKey, column, seen, k => do
    let after := (k.drop 1).restOfLine
    let (item, after) ←
      if after.atLineEnd then
        let start := after.next
        if !start.atEnd && decide (column < start.column) then block? fuel (column + 1) start
        else some (.null, after)
      else block? fuel (column + 1) after
    let start := after.next
    if start.atEnd || decide (start.column < column) then some (seen ++ [item], after)
    else if start.column = column then
      if startsItem start then items? fuel underKey column (seen ++ [item]) start
      else if underKey then some (seen ++ [item], after)
      else none
    else none

/-- The entries of a mapping in a column, after those in `seen`. -/
def entries? : (fuel : Nat) → (column : Nat) → (seen : List (Datum × Datum)) → Cursor →
    Option (List (Datum × Datum) × Cursor)
  | 0, _, _, _ => none
  | fuel + 1, column, seen, k => do
    let (key, afterColon) ← key? false k
    let after := afterColon.restOfLine
    let (value, after) ←
      if after.atLineEnd then
        let start := after.next
        if start.atEnd then some (Datum.null, after)
        else if column < start.column then block? fuel (column + 1) start
        else if start.column = column ∧ startsItem start then
          (items? fuel true column [] start).map fun r => (.list r.1, r.2)
        else some (.null, after)
      else inline? (column + 1) after
    let seen := Datum.setKey key value seen
    let start := after.next
    if start.atEnd || decide (start.column < column) then some (seen, after)
    else if start.column = column then entries? fuel column seen start
    else none

end

/-- Characters that may occur in a settings file. -/
def isAllowed (c : Char) : Bool :=
  let n := c.toNat
  n == 0x09 || n == 0x0A || n == 0x0D || (0x20 ≤ n && n ≤ 0x7E) || n == 0x85
  || (0xA0 ≤ n && n ≤ 0xD7FF) || (0xE000 ≤ n && n ≤ 0xFFFD) || 0x10000 ≤ n

/-- Text without a byte order mark at its front. -/
def unmarked (cs : List Char) : List Char :=
  match cs with
  | [] => []
  | c :: rest => if c.toNat = 0xFEFF then rest else cs

/-- The text after a line that only opens the document, if there is one. -/
def opened (cs : List Char) : List Char :=
  let k := Cursor.next ⟨0, cs⟩
  match k.chars with
  | '-' :: '-' :: '-' :: rest =>
    let after := Cursor.restOfLine ⟨3, rest⟩
    if k.column = 0 ∧ endsToken rest ∧ after.atLineEnd then after.chars else cs
  | _ => cs

/-- The datum that a settings file holds. An empty file holds null. -/
def read? (text : String) : Option Datum :=
  if !text.toList.all isAllowed then none
  else
    let start := Cursor.next ⟨0, opened (unmarked text.toList)⟩
    if start.atEnd then some .null
    else do
      let (d, after) ← block? (4 * start.chars.length + 4) 0 start
      if after.next.atEnd then some d else none

end Yaml
end RiftScript
