/-
Blank characters and trimming.

What trimming leaves is what stands between the blanks at the two ends.
-/
import RiftScript.Text.Ranges

namespace RiftScript
namespace Text

/-- Spaces, tabs, line and paragraph ends, and the four information separators. -/
def blankTable : List CodeRange :=
  [(0x9, 0xD), (0x1C, 0x20), (0x85, 0x85), (0xA0, 0xA0), (0x1680, 0x1680), (0x2000, 0x200A),
   (0x2028, 0x2029), (0x202F, 0x202F), (0x205F, 0x205F), (0x3000, 0x3000)]

def isBlank (c : Char) : Bool :=
  inRanges blankTable c

/-- Text without the characters of a class at its two ends. -/
def trimBy (inClass : Char → Bool) (cs : List Char) : List Char :=
  ((cs.dropWhile inClass).reverse.dropWhile inClass).reverse

/-- Text without the blanks at its two ends. -/
def trim (cs : List Char) : List Char :=
  trimBy isBlank cs

theorem head?_dropWhile {inClass : Char → Bool} {cs : List Char} {c : Char}
    (h : (cs.dropWhile inClass).head? = some c) : inClass c = false := by
  have hhead := List.head?_dropWhile_not inClass cs
  rw [h] at hhead
  exact hhead

/-- Only characters of the class are dropped, and what is left neither starts nor ends with one. -/
theorem exists_trimBy (inClass : Char → Bool) (cs : List Char) :
    ∃ before after, cs = before ++ trimBy inClass cs ++ after ∧
      (∀ c ∈ before ++ after, inClass c = true) ∧
      (∀ c, (trimBy inClass cs).head? = some c → inClass c = false) ∧
      ∀ c, (trimBy inClass cs).getLast? = some c → inClass c = false := by
  have hrest : cs.dropWhile inClass
      = trimBy inClass cs ++ ((cs.dropWhile inClass).reverse.takeWhile inClass).reverse := by
    rw [trimBy, ← List.reverse_append, List.takeWhile_append_dropWhile, List.reverse_reverse]
  refine ⟨cs.takeWhile inClass, ((cs.dropWhile inClass).reverse.takeWhile inClass).reverse,
    ?_, ?_, ?_, ?_⟩
  · rw [List.append_assoc, ← hrest, List.takeWhile_append_dropWhile]
  · intro c hc
    rcases List.mem_append.mp hc with hc | hc
    · exact List.all_eq_true.mp List.all_takeWhile c hc
    · exact List.all_eq_true.mp List.all_takeWhile c (List.mem_reverse.mp hc)
  · intro c hc
    have hhead : (cs.dropWhile inClass).head? = some c := by
      rw [hrest, List.head?_append, hc, Option.some_or]
    exact head?_dropWhile hhead
  · intro c hc
    rw [trimBy, List.getLast?_reverse] at hc
    exact head?_dropWhile hc

end Text
end RiftScript
