/-
Words.

A word is a stretch of text that holds no delimiter. Where a delimiter or nothing follows it, its
end can be seen, so two texts that start with words are the same only if the words are. The texts of
numbers are words, since all that they are made of are digits and the few signs listed here, and
they differ from every word that holds another sign.
-/
import RiftScript.Json.Write

namespace RiftScript

/-- What can be seen by looking at the members of a list one by one. -/
theorem forall_mem_of_all {α : Type} {p : α → Prop} [DecidablePred p] {l : List α}
    (h : (l.all fun a => decide (p a)) = true) : ∀ a ∈ l, p a :=
  fun a ha => of_decide_eq_true (List.all_eq_true.mp h a ha)

/-- Two words in front of delimiters are the same if the texts are. -/
theorem word_append_inj {delimiter : Char → Prop} {xs ys rest rest' : List Char}
    (hxs : ∀ c ∈ xs, ¬ delimiter c) (hys : ∀ c ∈ ys, ¬ delimiter c)
    (hrest : ∀ c ∈ rest.head?, delimiter c) (hrest' : ∀ c ∈ rest'.head?, delimiter c)
    (h : xs ++ rest = ys ++ rest') : xs = ys ∧ rest = rest' := by
  induction xs generalizing ys with
  | nil =>
    cases ys with
    | nil => exact ⟨rfl, h⟩
    | cons y ys =>
      rw [List.nil_append] at h
      exact absurd (hrest y (by simp [h])) (hys y List.mem_cons_self)
  | cons x xs ih =>
    cases ys with
    | nil =>
      rw [List.nil_append] at h
      exact absurd (hrest' x (by simp [← h])) (hxs x List.mem_cons_self)
    | cons y ys =>
      obtain ⟨rfl, htail⟩ := List.cons.inj h
      obtain ⟨rfl, hsame⟩ := ih (fun c hc => hxs c (List.mem_cons_of_mem _ hc))
        (fun c hc => hys c (List.mem_cons_of_mem _ hc)) htail
      exact ⟨rfl, hsame⟩

namespace Number

/-! ## Signs in the texts of numbers -/

/-- Digits, the point, signs, the mark of an exponent, and the letters of the words for numbers that
have no digits. -/
def numeralSigns : List Char :=
  ['0', '1', '2', '3', '4', '5', '6', '7', '8', '9', '.', '+', '-', 'e', 'i', 'n', 'f', 'a', 'I',
    'N', 't', 'y']

/-- The signs of whole numbers. -/
def integerSigns : List Char :=
  ['0', '1', '2', '3', '4', '5', '6', '7', '8', '9', '-']

theorem integerSigns_subset : integerSigns ⊆ numeralSigns := by
  decide

theorem mem_integerSigns_of_isDigit {c : Char} (h : c.isDigit = true) : c ∈ integerSigns := by
  simp only [Char.isDigit, Bool.and_eq_true, decide_eq_true_eq, ge_iff_le,
    UInt32.le_iff_toNat_le] at h
  have hlow : 48 ≤ c.toNat := h.1
  have hhigh : c.toNat ≤ 57 := h.2
  obtain ⟨n, hn, hc⟩ : ∃ n, n < 10 ∧ c.toNat = n + 48 := ⟨c.toNat - 48, by omega, by omega⟩
  have hall : ∀ n, n < 10 → Char.ofNat (n + 48) ∈ integerSigns := by decide
  rw [← Char.ofNat_toNat c, hc]
  exact hall n hn

theorem mem_integerSigns_of_mem_toDigits {n : Nat} {c : Char} (h : c ∈ Nat.toDigits 10 n) :
    c ∈ integerSigns :=
  mem_integerSigns_of_isDigit (Nat.isDigit_of_mem_toDigits (by decide) (by decide) h)

/-- A number is written with the signs of numbers, and with some sign that whole numbers lack. -/
structure IsFloatText (cs : List Char) : Prop where
  signs : ∀ c ∈ cs, c ∈ numeralSigns
  fractional : ∃ c ∈ cs, c ∉ integerSigns

theorem IsFloatText.ne_nil {cs : List Char} (h : IsFloatText cs) : cs ≠ [] := by
  obtain ⟨c, hc, _⟩ := h.fractional
  exact List.ne_nil_of_mem hc

theorem isFloatText_signed (negative : Bool) {cs : List Char} (h : IsFloatText cs) :
    IsFloatText (signed negative cs) := by
  cases negative with
  | false => exact h
  | true =>
    obtain ⟨c, hc, hfraction⟩ := h.fractional
    exact ⟨List.forall_mem_cons.mpr ⟨by decide, h.signs⟩, c, List.mem_cons_of_mem _ hc, hfraction⟩

/-- Digits around one sign that is no digit. -/
theorem isFloatText_around {before after : List Char} {mark : Char}
    (hbefore : ∀ c ∈ before, c ∈ numeralSigns) (hafter : ∀ c ∈ after, c ∈ numeralSigns)
    (hmark : mark ∈ numeralSigns) (hfraction : mark ∉ integerSigns) :
    IsFloatText (before ++ mark :: after) := by
  refine ⟨?_, mark, by simp, hfraction⟩
  intro c hc
  rcases List.mem_append.mp hc with hc | hc
  · exact hbefore c hc
  · rcases List.mem_cons.mp hc with rfl | hc
    · exact hmark
    · exact hafter c hc

theorem mem_numeralSigns_of_mem_zeros {n : Nat} {c : Char} (h : c ∈ zeros n) :
    c ∈ numeralSigns := by
  rw [List.eq_of_mem_replicate h]
  decide

theorem isFloatText_write (l : Layout) (d : Decimal) : IsFloatText (l.write d) := by
  have hdigits : ∀ {n : Nat}, ∀ c ∈ Nat.toDigits 10 n, c ∈ numeralSigns :=
    fun c hc => integerSigns_subset (mem_integerSigns_of_mem_toDigits hc)
  unfold Layout.write
  dsimp only
  split
  · split
    · show IsFloatText (['0'] ++ '.' :: _)
      refine isFloatText_around (forall_mem_of_all (by decide)) ?_ (by decide) (by decide)
      intro c hc
      rcases List.mem_append.mp hc with hc | hc
      · exact mem_numeralSigns_of_mem_zeros hc
      · exact hdigits c hc
    · split
      · refine isFloatText_around ?_ (forall_mem_of_all (by decide)) (by decide) (by decide)
        intro c hc
        rcases List.mem_append.mp hc with hc | hc
        · exact hdigits c hc
        · exact mem_numeralSigns_of_mem_zeros hc
      · exact isFloatText_around (fun c hc => hdigits c (List.mem_of_mem_take hc))
          (fun c hc => hdigits c (List.mem_of_mem_drop hc)) (by decide) (by decide)
  · refine isFloatText_around ?_ ?_ (by decide) (by decide)
    · intro c hc
      have hsigns : ∀ c ∈ Nat.toDigits 10 d.digits, c ∈ numeralSigns := hdigits
      split at hc
      · cases hc
      · next hfirst =>
        rw [hfirst] at hsigns
        exact hsigns c hc
      · next first more _ hfirst =>
        rw [hfirst] at hsigns
        rcases List.mem_cons.mp hc with rfl | hc
        · exact hsigns _ List.mem_cons_self
        · rcases List.mem_cons.mp hc with rfl | hc
          · decide
          · exact hsigns c (List.mem_cons_of_mem _ hc)
    · refine List.forall_mem_cons.mpr ⟨by split <;> decide, fun c hc => ?_⟩
      rcases List.mem_append.mp hc with hc | hc
      · exact mem_numeralSigns_of_mem_zeros hc
      · exact hdigits c hc

theorem isFloatText_text (x : Float) : IsFloatText (text x).toList := by
  unfold text
  split
  · exact ⟨forall_mem_of_all (by decide), 'a', by decide, by decide⟩
  · rw [String.toList_ofList]
    exact isFloatText_signed _ ⟨forall_mem_of_all (by decide), 'f', by decide, by decide⟩
  · rw [String.toList_ofList]
    exact isFloatText_signed _ ⟨forall_mem_of_all (by decide), '.', by decide, by decide⟩
  · rw [String.toList_ofList]
    exact isFloatText_signed _ (isFloatText_write _ _)

theorem isFloatText_floatText (x : Float) : IsFloatText (Json.floatText x) := by
  unfold Json.floatText
  split
  · exact ⟨forall_mem_of_all (by decide), 'N', by decide, by decide⟩
  · exact isFloatText_signed _ ⟨forall_mem_of_all (by decide), 'I', by decide, by decide⟩
  · exact isFloatText_text x

/-! ## Whole numbers -/

theorem toList_repr (n : Nat) : n.repr.toList = Nat.toDigits 10 n := by
  rw [Nat.repr_eq_ofList_toDigits, String.toList_ofList]

theorem toList_toString (n : Int) :
    (toString n).toList = signed (decide (n < 0)) (Nat.toDigits 10 n.natAbs) := by
  show n.repr.toList = _
  rw [Int.repr_eq_if]
  split
  · next h =>
    rw [toList_repr, decide_eq_false (by omega), show n.toNat = n.natAbs by omega]
    rfl
  · next h =>
    rw [String.toList_append, toList_repr, decide_eq_true (by omega),
      show (-n).toNat = n.natAbs by omega]
    rfl

theorem mem_integerSigns_of_mem_toString {n : Int} {c : Char} (h : c ∈ (toString n).toList) :
    c ∈ integerSigns := by
  rw [toList_toString] at h
  cases hn : decide (n < 0) with
  | false =>
    rw [hn] at h
    exact mem_integerSigns_of_mem_toDigits h
  | true =>
    rw [hn] at h
    rcases List.mem_cons.mp h with rfl | h
    · decide
    · exact mem_integerSigns_of_mem_toDigits h

theorem toString_ne_nil (n : Int) : (toString n).toList ≠ [] := by
  rw [toList_toString]
  cases decide (n < 0) with
  | false => exact Nat.toDigits_ne_nil
  | true => exact List.cons_ne_nil _ _

theorem toDigits_injective {m n : Nat} (h : Nat.toDigits 10 m = Nat.toDigits 10 n) : m = n := by
  have hread := congrArg (fun cs => Nat.ofDigitChars 10 cs 0) h
  simpa [Nat.ofDigitChars_toDigits] using hread

theorem toString_injective {m n : Int} (h : (toString m).toList = (toString n).toList) :
    m = n := by
  have hminus : ∀ {k : Nat} {cs : List Char}, Nat.toDigits 10 k ≠ '-' :: cs := by
    intro k cs hk
    have hdigit := Nat.isDigit_of_mem_toDigits (b := 10) (n := k) (c := '-') (by decide) (by decide)
      (by simp [hk])
    exact absurd hdigit (by decide)
  rw [toList_toString, toList_toString] at h
  -- Only negative numbers start with a minus, and without it the digits tell the rest.
  by_cases hm : m < 0 <;> by_cases hn : n < 0 <;> simp only [hm, hn, decide_true, decide_false] at h
  · have := toDigits_injective (List.cons.inj h).2
    omega
  · exact absurd h.symm hminus
  · exact absurd h hminus
  · have := toDigits_injective h
    omega

theorem plain_cases (x : Float) :
    (∃ n : Int, plain x = toString n) ∨ IsFloatText (plain x).toList := by
  unfold plain
  split
  · next n _ => exact .inl ⟨n, rfl⟩
  · exact .inr (isFloatText_text x)

theorem mem_numeralSigns_of_mem_plain {x : Float} {c : Char} (h : c ∈ (plain x).toList) :
    c ∈ numeralSigns := by
  rcases plain_cases x with ⟨n, hn⟩ | hfloat
  · rw [hn] at h
    exact integerSigns_subset (mem_integerSigns_of_mem_toString h)
  · exact hfloat.signs c h

theorem plain_ne_nil (x : Float) : (plain x).toList ≠ [] := by
  rcases plain_cases x with ⟨n, hn⟩ | hfloat
  · rw [hn]
    exact toString_ne_nil n
  · exact hfloat.ne_nil

end Number
end RiftScript
