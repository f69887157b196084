/-
Character classes given by tables of code point ranges.
-/

namespace RiftScript
namespace Text

/-- An inclusive range of code points. -/
abbrev CodeRange := Nat × Nat

/-- Whether a character falls in one of the ranges of a table. -/
def inRanges (table : List CodeRange) (c : Char) : Bool :=
  table.any fun r => r.1 ≤ c.toNat && c.toNat ≤ r.2

/-- The offset of a character from the start of the range that holds it. -/
def offsetIn? (table : List CodeRange) (c : Char) : Option Nat :=
  (table.find? fun r => r.1 ≤ c.toNat && c.toNat ≤ r.2).map fun r => c.toNat - r.1

end Text
end RiftScript
