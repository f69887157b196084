/-
The texts of numbers are numerals.

A numeral has digits before the point, and may have digits after it and an exponent. Whole numbers
are written as numerals with neither, and finite floats as numerals with one of the two at least. No
needless zero stands in front: the shortest decimal of a positive number is positive, so its first
digit is not zero.

The two readers of numbers, that of JSON text and that of settings, take a numeral for the same
float. What a float is read back as is therefore one question and not two.
-/
import RiftScript.Json.Read
import RiftScript.Proofs.Trees.JsonText

namespace RiftScript
namespace Number

/-! ## Shortest decimals -/

theorem digitCount_pos (n : Nat) : 0 < digitCount n :=
  Nat.length_toDigits_pos

theorem lt_pow_digitCount (n : Nat) : n < Nat.pow 10 (digitCount n) :=
  (Nat.length_toDigits_le_iff (by decide) (digitCount_pos n)).mp (Nat.le_refl _)

theorem pow_le_of_lt_digitCount {n k : Nat} (hn : 0 < n) (h : k < digitCount n) :
    Nat.pow 10 k ≤ n := by
  cases k with
  | zero => exact hn
  | succ k =>
    have hbound := Nat.length_toDigits_le_iff (b := 10) (n := n) (by decide) (Nat.succ_pos k)
    have hlong : ¬ (Nat.toDigits 10 n).length ≤ k + 1 := Nat.not_le.mpr h
    exact Nat.not_lt.mp fun hlt => hlong (hbound.mpr hlt)

/-- At the leading exponent and below it, the grid is finer than the quotient is large. -/
theorem le_of_le_leadingExponent {num den : Nat} (hnum : 0 < num) (hden : 0 < den) {e : Int}
    (h : e ≤ leadingExponent num den) :
    (0 ≤ e → den * Nat.pow 10 e.toNat ≤ num) ∧ (e < 0 → den ≤ num * Nat.pow 10 (-e).toNat) := by
  have hmono : ∀ {a b : Nat}, a ≤ b → Nat.pow 10 a ≤ Nat.pow 10 b :=
    fun hab => Nat.pow_le_pow_right (by decide) hab
  unfold leadingExponent at h
  by_cases hle : den ≤ num
  · rw [if_pos hle] at h
    constructor
    · intro he
      have hpow : Nat.pow 10 e.toNat ≤ num / den :=
        pow_le_of_lt_digitCount (Nat.div_pos hle hden) (by omega)
      calc den * Nat.pow 10 e.toNat ≤ den * (num / den) := Nat.mul_le_mul_left den hpow
        _ ≤ num := Nat.mul_div_le num den
    · intro _
      exact Nat.le_trans hle (Nat.le_mul_of_pos_right num (Nat.pow_pos (by decide)))
  · rw [if_neg hle] at h
    have hplaces := digitCount_pos (den / num)
    by_cases htop : den ≤ num * Nat.pow 10 (digitCount (den / num) - 1)
    · simp only [htop, if_true] at h
      have hne : digitCount (den / num) ≠ 1 := by
        intro hone
        rw [hone] at htop
        exact hle (by simpa using htop)
      refine ⟨fun he => by omega, fun _ => ?_⟩
      exact Nat.le_trans htop (Nat.mul_le_mul_left num (hmono (by omega)))
    · simp only [htop, if_false] at h
      refine ⟨fun he => by omega, fun _ => ?_⟩
      have hlt : den < num * Nat.pow 10 (digitCount (den / num)) := by
        rw [Nat.mul_comm]
        exact (Nat.div_lt_iff_lt_mul hnum).mp (lt_pow_digitCount (den / num))
      exact Nat.le_trans (Nat.le_of_lt hlt) (Nat.mul_le_mul_left num (hmono (by omega)))

theorem pos_of_mem_gridNeighbours {num den : Nat} (hnum : 0 < num) (hden : 0 < den) {e : Int}
    (h : e ≤ leadingExponent num den) {d : Decimal} (hd : d ∈ gridNeighbours num den e) :
    0 < d.digits := by
  obtain ⟨hwhole, hfraction⟩ := le_of_le_leadingExponent hnum hden h
  have hlow : 0 < (if 0 ≤ e then num else num * Nat.pow 10 (-e).toNat) /
      (if 0 ≤ e then den * Nat.pow 10 e.toNat else den) := by
    by_cases he : 0 ≤ e
    · rw [if_pos he, if_pos he]
      exact Nat.div_pos (hwhole he) (Nat.mul_pos hden (Nat.pow_pos (by decide)))
    · rw [if_neg he, if_neg he]
      exact Nat.div_pos (hfraction (by omega)) hden
  unfold gridNeighbours at hd
  dsimp only at hd
  generalize (if 0 ≤ e then num else num * Nat.pow 10 (-e).toNat) = top at hd hlow
  generalize (if 0 ≤ e then den * Nat.pow 10 e.toNat else den) = bottom at hd hlow
  split at hd <;> simp only [List.mem_cons, List.not_mem_nil, or_false] at hd
  · rcases hd with rfl | rfl
    · exact hlow
    · exact Nat.succ_pos _
  · rcases hd with rfl | rfl
    · exact Nat.succ_pos _
    · exact hlow

theorem Decimal.trimmed_pos (fuel : Nat) {d : Decimal} (h : 0 < d.digits) :
    0 < (d.trimmed fuel).digits := by
  induction fuel generalizing d with
  | zero => exact h
  | succ fuel ih =>
    rw [Decimal.trimmed]
    split
    · next hzero => exact ih (by show 0 < d.digits / 10; omega)
    · exact h

/-- The shortest decimal of a positive number is positive. -/
theorem shortestOf_pos (x : Float) {num den : Nat} (hnum : 0 < num) (hden : 0 < den) :
    0 < (shortestOf x num den).digits := by
  unfold shortestOf
  apply Decimal.trimmed_pos
  cases hbest : (List.range mostDigits).findSome? fun (n : Nat) =>
      (gridNeighbours num den (leadingExponent num den - n)).find? fun d => d.toFloat == x with
  | none => exact hnum
  | some d =>
    obtain ⟨n, _, hfind⟩ := List.exists_of_findSome?_eq_some hbest
    exact pos_of_mem_gridNeighbours hnum hden (by omega) (List.mem_of_find?_eq_some hfind)

theorem ratio_pos {mantissa : Nat} (h : 0 < mantissa) (exponent : Int) :
    0 < (ratio mantissa exponent).1 ∧ 0 < (ratio mantissa exponent).2 := by
  have hpow : ∀ k, 0 < Nat.pow 2 k := fun k => Nat.pow_pos (by decide)
  unfold ratio
  split
  · exact ⟨Nat.mul_pos h (hpow _), Nat.one_pos⟩
  · exact ⟨h, hpow _⟩

/-! ## Numerals -/

/-- Digits, at least one of them. -/
structure IsDigits (ds : List Char) : Prop where
  ne_nil : ds ≠ []
  digits : ∀ c ∈ ds, Text.isAsciiDigit c = true

/-- The digits before the point, those after it and the exponent of a number. -/
structure Numeral where
  whole : List Char
  fraction : Option (List Char)
  /-- Whether the exponent is negative, and its digits. -/
  exponent : Option (Bool × List Char)
  isDigits_whole : IsDigits whole
  leading : whole.head? = some '0' → whole = ['0']
  isDigits_fraction : ∀ ds ∈ fraction, IsDigits ds
  isDigits_exponent : ∀ e ∈ exponent, IsDigits e.2

/-- The values of digits. -/
def digitValues (ds : List Char) : List Nat :=
  ds.map fun c => c.toNat - '0'.toNat

namespace Numeral

def fractionText : Option (List Char) → List Char
  | none => []
  | some ds => '.' :: ds

def exponentText : Option (Bool × List Char) → List Char
  | none => []
  | some (negative, ds) => 'e' :: (if negative then '-' else '+') :: ds

def text (n : Numeral) : List Char :=
  n.whole ++ (fractionText n.fraction ++ exponentText n.exponent)

def exponentValue : Option (Bool × List Char) → Int
  | none => 0
  | some (negative, ds) =>
    if negative then -(digitsValue (digitValues ds) : Int) else (digitsValue (digitValues ds) : Int)

/-- The float nearest to a numeral. -/
def toFloat (n : Numeral) : Float :=
  ofDigits (digitValues n.whole) ((n.fraction.map digitValues).getD []) (exponentValue n.exponent)

/-- Neither a point nor an exponent. -/
def IsWhole (n : Numeral) : Prop :=
  n.fraction = none ∧ n.exponent = none

end Numeral

theorem isAsciiDigit_of_mem_toDigits {n : Nat} {c : Char} (h : c ∈ Nat.toDigits 10 n) :
    Text.isAsciiDigit c = true := by
  have hdigit := Nat.isDigit_of_mem_toDigits (by decide) (by decide) h
  simpa [Char.isDigit, Text.isAsciiDigit, Char.le_def] using hdigit

theorem isDigits_toDigits (n : Nat) : IsDigits (Nat.toDigits 10 n) :=
  ⟨Nat.toDigits_ne_nil, fun _ => isAsciiDigit_of_mem_toDigits⟩

theorem isAsciiDigit_of_mem_zeros {n : Nat} {c : Char} (h : c ∈ zeros n) :
    Text.isAsciiDigit c = true := by
  rw [List.eq_of_mem_replicate h]
  decide

theorem IsDigits.append {ds es : List Char} (hds : IsDigits ds)
    (hes : ∀ c ∈ es, Text.isAsciiDigit c = true) : IsDigits (ds ++ es) :=
  ⟨List.append_ne_nil_of_left_ne_nil hds.ne_nil es,
    fun c hc => (List.mem_append.mp hc).elim (hds.digits c) (hes c)⟩

theorem IsDigits.prepend {ds es : List Char} (hds : ∀ c ∈ ds, Text.isAsciiDigit c = true)
    (hes : IsDigits es) : IsDigits (ds ++ es) :=
  ⟨List.append_ne_nil_of_right_ne_nil ds hes.ne_nil,
    fun c hc => (List.mem_append.mp hc).elim (hds c) (hes.digits c)⟩

theorem isDigits_padded (width n : Nat) : IsDigits (padded width n) :=
  .prepend (fun _ => isAsciiDigit_of_mem_zeros) (isDigits_toDigits n)

/-- A positive number has no zero in front. -/
theorem head?_toDigits_ne {n : Nat} (h : 0 < n) : (Nat.toDigits 10 n).head? ≠ some '0' := by
  induction n using Nat.strongRecOn with
  | ind n ih =>
    rw [Nat.toDigits_eq_if (by decide)]
    split
    · next hsmall =>
      have hall : ∀ k, k < 10 → 0 < k → [Nat.digitChar k].head? ≠ some '0' := by decide
      exact hall n hsmall h
    · next hlarge =>
      have hfirst := ih (n / 10) (by omega) (by omega)
      obtain ⟨c, cs, hcs⟩ := List.exists_cons_of_ne_nil (Nat.toDigits_ne_nil (b := 10) (n := n / 10))
      rw [hcs] at hfirst ⊢
      exact hfirst

/-- A whole number without a sign. -/
def Numeral.ofNat (n : Nat) : Numeral where
  whole := Nat.toDigits 10 n
  fraction := none
  exponent := none
  isDigits_whole := isDigits_toDigits n
  leading := by
    intro hzero
    by_cases hn : 0 < n
    · exact absurd hzero (head?_toDigits_ne hn)
    · obtain rfl : n = 0 := by omega
      rfl
  isDigits_fraction := by simp
  isDigits_exponent := by simp

/-- Digits with the point between them. -/
theorem exists_numeral_point {whole fraction : List Char} (hwhole : IsDigits whole)
    (hleading : whole.head? = some '0' → whole = ['0']) (hfraction : IsDigits fraction) :
    ∃ n : Numeral, ¬ n.IsWhole ∧ whole ++ '.' :: fraction = n.text := by
  refine ⟨{
    whole := whole
    fraction := some fraction
    exponent := none
    isDigits_whole := hwhole
    leading := hleading
    isDigits_fraction := by simpa using hfraction
    isDigits_exponent := by simp }, by simp [Numeral.IsWhole], ?_⟩
  simp [Numeral.text, Numeral.fractionText, Numeral.exponentText]

theorem isDigits_zero : IsDigits ['0'] :=
  ⟨by decide, forall_mem_of_all (by decide)⟩

theorem head?_append_ne {ds : List Char} (hne : ds ≠ []) (h : ds.head? ≠ some '0')
    (es : List Char) : (ds ++ es).head? ≠ some '0' := by
  obtain ⟨c, cs, rfl⟩ := List.exists_cons_of_ne_nil hne
  exact h

theorem toList_toString_numeral (n : Int) :
    (toString n).toList = signed (decide (n < 0)) (Numeral.ofNat n.natAbs).text := by
  rw [toList_toString]
  simp [Numeral.text, Numeral.ofNat, Numeral.fractionText, Numeral.exponentText]

/-- The point between two of the digits. -/
theorem exists_numeral_split {digits : List Char} (hdigits : IsDigits digits)
    (hfirst : digits.head? ≠ some '0') {place : Nat} (hpos : 0 < place)
    (hplace : place < digits.length) :
    ∃ n : Numeral, ¬ n.IsWhole ∧ digits.take place ++ '.' :: digits.drop place = n.text := by
  have hwhole : IsDigits (digits.take place) := by
    refine ⟨?_, fun c hc => hdigits.digits c (List.mem_of_mem_take hc)⟩
    rw [ne_eq, List.take_eq_nil_iff]
    exact not_or.mpr ⟨by omega, hdigits.ne_nil⟩
  have hfraction : IsDigits (digits.drop place) := by
    refine ⟨?_, fun c hc => hdigits.digits c (List.mem_of_mem_drop hc)⟩
    rw [ne_eq, List.drop_eq_nil_iff]
    omega
  have hleading : (digits.take place).head? ≠ some '0' := by
    rw [List.head?_take, if_neg (by omega)]
    exact hfirst
  exact exists_numeral_point hwhole (fun hzero => absurd hzero hleading) hfraction

/-- An exponent behind the digits, with the point after the first if there are more. -/
theorem exists_numeral_exponent {first : Char} {more exponent : List Char}
    (hdigits : IsDigits (first :: more)) (hfirst : first ≠ '0') (negative : Bool)
    (hexponent : IsDigits exponent) :
    ∃ n : Numeral, ¬ n.IsWhole ∧
      first :: (Numeral.fractionText (if more = [] then none else some more) ++
        Numeral.exponentText (some (negative, exponent))) = n.text := by
  have hwhole : IsDigits [first] := by
    refine ⟨by simp, fun c hc => hdigits.digits c ?_⟩
    rw [List.mem_singleton.mp hc]
    exact List.mem_cons_self
  have hmore : ∀ ds ∈ (if more = [] then none else some more), IsDigits ds := by
    intro ds hds
    split at hds
    · cases hds
    · next hne =>
      obtain rfl : more = ds := by simpa using hds
      exact ⟨hne, fun c hc => hdigits.digits c (List.mem_cons_of_mem _ hc)⟩
  exact ⟨{
    whole := [first]
    fraction := if more = [] then none else some more
    exponent := some (negative, exponent)
    isDigits_whole := hwhole
    leading := fun hzero => absurd (Option.some.inj hzero) hfirst
    isDigits_fraction := hmore
    isDigits_exponent := by simpa using hexponent }, by simp [Numeral.IsWhole], rfl⟩

/-- Positive decimals are written as numerals with a point or an exponent. -/
theorem exists_numeral_write (l : Layout) {d : Decimal} (h : 0 < d.digits) :
    ∃ n : Numeral, ¬ n.IsWhole ∧ l.write d = n.text := by
  have hdigits := isDigits_toDigits d.digits
  have hfirst := head?_toDigits_ne h
  unfold Layout.write
  dsimp only
  generalize Nat.toDigits 10 d.digits = digits at hdigits hfirst
  have hlength : 0 < digits.length := List.length_pos_iff.mpr hdigits.ne_nil
  split
  · split
    · -- Below one: a zero, the point, and zeros up to the first digit.
      exact exists_numeral_point isDigits_zero (fun _ => rfl)
        (.prepend (fun _ => isAsciiDigit_of_mem_zeros) hdigits)
    · split
      · -- A whole number: zeros up to the point, and one behind it.
        exact exists_numeral_point (hdigits.append fun _ => isAsciiDigit_of_mem_zeros)
          (fun hzero => absurd hzero (head?_append_ne hdigits.ne_nil hfirst _)) isDigits_zero
      · exact exists_numeral_split hdigits hfirst (by omega) (by omega)
  · obtain ⟨first, more, rfl⟩ := List.exists_cons_of_ne_nil hdigits.ne_nil
    have hne : first ≠ '0' := fun hzero => hfirst (congrArg some hzero)
    generalize d.exponent + (first :: more).length - 1 = lead
    obtain ⟨n, hn, htext⟩ := exists_numeral_exponent hdigits hne (decide (lead < 0))
      (isDigits_padded l.exponentWidth lead.natAbs)
    refine ⟨n, hn, ?_⟩
    rw [← htext]
    cases more with
    | nil => simp [Numeral.fractionText, Numeral.exponentText]
    | cons second more => simp [Numeral.fractionText, Numeral.exponentText]

/-- Finite floats are written as numerals with a point or an exponent. -/
theorem exists_numeral_text {x : Float} {negative : Bool} {mantissa : Nat} {exponent : Int}
    (h : parts x = .finite negative mantissa exponent) :
    ∃ n : Numeral, ¬ n.IsWhole ∧ (text x).toList = signed negative n.text := by
  unfold text
  rw [h]
  cases mantissa with
  | zero =>
    obtain ⟨n, hwhole, hn⟩ := exists_numeral_point isDigits_zero (fun _ => rfl) isDigits_zero
    refine ⟨n, hwhole, ?_⟩
    rw [← hn]
    exact String.toList_ofList
  | succ mantissa =>
    obtain ⟨hnum, hden⟩ := ratio_pos (Nat.succ_pos mantissa) exponent
    obtain ⟨n, hwhole, hn⟩ := exists_numeral_write layout (shortestOf_pos x.abs hnum hden)
    refine ⟨n, hwhole, ?_⟩
    rw [← hn]
    exact String.toList_ofList

/-! ## Numerals in JSON text -/

theorem Numeral.exists_whole_cons (n : Numeral) :
    ∃ c cs, n.whole = c :: cs ∧ Text.isAsciiDigit c = true := by
  obtain ⟨c, cs, hcs⟩ := List.exists_cons_of_ne_nil n.isDigits_whole.ne_nil
  exact ⟨c, cs, hcs, n.isDigits_whole.digits c (by simp [hcs])⟩

theorem ne_of_isAsciiDigit {c d : Char} (hc : Text.isAsciiDigit c = true)
    (hd : Text.isAsciiDigit d = false) : c ≠ d := by
  rintro rfl
  rw [hc] at hd
  cases hd

end Number

namespace Json

open Number

/-- No digit follows. -/
def EndsDigits (rest : List Char) : Prop :=
  ∀ c ∈ rest.head?, Text.isAsciiDigit c = false

theorem Closes.endsDigits {rest : List Char} (h : Closes rest) : EndsDigits rest := by
  have hclosers : ∀ c ∈ [',', ']', '}'], Text.isAsciiDigit c = false :=
    forall_mem_of_all (by decide)
  exact fun c hc => hclosers c (h c hc)

theorem endsDigits_cons {c : Char} (h : Text.isAsciiDigit c = false) (rest : List Char) :
    EndsDigits (c :: rest) := by
  intro d hd
  obtain rfl : c = d := by simpa using hd
  exact h

theorem endsDigits_exponentText (e : Option (Bool × List Char)) {rest : List Char}
    (hrest : Closes rest) : EndsDigits (Numeral.exponentText e ++ rest) := by
  cases e with
  | none => exact hrest.endsDigits
  | some e => exact endsDigits_cons (by decide) _

theorem endsDigits_fractionText (ds : Option (List Char)) {rest : List Char}
    (hrest : EndsDigits rest) : EndsDigits (Numeral.fractionText ds ++ rest) := by
  cases ds with
  | none => exact hrest
  | some ds => exact endsDigits_cons (by decide) _

theorem digits_append {ds rest : List Char} (hds : ∀ c ∈ ds, Text.isAsciiDigit c = true)
    (hrest : EndsDigits rest) : digits (ds ++ rest) = (digitValues ds, rest) := by
  have htake : (ds ++ rest).takeWhile Text.isAsciiDigit = ds := by
    rw [List.takeWhile_append_of_pos hds]
    cases rest with
    | nil => simp
    | cons c rest => simp [hrest c rfl]
  have hdrop : (ds ++ rest).dropWhile Text.isAsciiDigit = rest := by
    rw [List.dropWhile_append_of_pos hds]
    cases rest with
    | nil => rfl
    | cons c rest => simp [hrest c rfl]
  rw [digits, htake, hdrop, digitValues]

theorem digits_isDigits {ds rest : List Char} (hds : IsDigits ds) (hrest : EndsDigits rest) :
    ∃ v vs, digitValues ds = v :: vs ∧ digits (ds ++ rest) = (v :: vs, rest) := by
  have hne : digitValues ds ≠ [] := by simpa [digitValues] using hds.ne_nil
  obtain ⟨v, vs, hvalues⟩ := List.exists_cons_of_ne_nil hne
  exact ⟨v, vs, hvalues, hvalues ▸ digits_append hds.digits hrest⟩

theorem whole?_numeral (n : Numeral) {rest : List Char} (hrest : EndsDigits rest) :
    whole? (n.whole ++ rest) = some (digitValues n.whole, rest) := by
  obtain ⟨c, cs, hcs, hc⟩ := n.exists_whole_cons
  by_cases hzero : c = '0'
  · have hwhole := n.leading (by simp [hcs, hzero])
    rw [hwhole]
    rfl
  · obtain ⟨v, vs, hvalues, hread⟩ := digits_isDigits n.isDigits_whole hrest
    rw [hvalues]
    rw [hcs, List.cons_append] at hread ⊢
    simp [whole?, hzero, hread]

theorem fraction?_numeral (n : Numeral) {rest : List Char} (hrest : EndsDigits rest)
    (hpoint : rest.head? ≠ some '.') :
    fraction? (Numeral.fractionText n.fraction ++ rest) =
      n.fraction.map fun ds => (digitValues ds, rest) := by
  cases hds : n.fraction with
  | none =>
    cases rest with
    | nil => rfl
    | cons c rest =>
      have hc : c ≠ '.' := by simpa using hpoint
      simp [Numeral.fractionText, fraction?, hc]
  | some ds =>
    obtain ⟨v, vs, hvalues, hread⟩ := digits_isDigits (n.isDigits_fraction ds hds) hrest
    simp [Numeral.fractionText, fraction?, hread, hvalues]

theorem exponent?_numeral (n : Numeral) {rest : List Char} (hrest : Closes rest) :
    exponent? (Numeral.exponentText n.exponent ++ rest) =
      n.exponent.map fun e => (Numeral.exponentValue (some e), rest) := by
  cases he : n.exponent with
  | none =>
    cases rest with
    | nil => rfl
    | cons c rest =>
      have hmark : ∀ c ∈ [',', ']', '}'], ¬ (c = 'e' ∨ c = 'E') := forall_mem_of_all (by decide)
      show exponent? (c :: rest) = none
      rw [exponent?, if_neg (hmark c (hrest c rfl))]
  | some e =>
    obtain ⟨negative, ds⟩ := e
    obtain ⟨v, vs, hvalues, hread⟩ :=
      digits_isDigits (n.isDigits_exponent _ he) hrest.endsDigits
    have hsign : signOf ((if negative then '-' else '+') :: (ds ++ rest)) =
        (negative, ds ++ rest) := by
      cases negative <;> rfl
    simp [Numeral.exponentText, exponent?, hsign, hread, Numeral.exponentValue, hvalues]

/-- What the reader makes of a numeral: a whole number if it has neither point nor exponent. -/
def ofNumeral (negative : Bool) (n : Numeral) : Json :=
  if n.fraction.isNone && n.exponent.isNone then
    int (if negative then -(digitsValue (digitValues n.whole) : Int)
      else (digitsValue (digitValues n.whole) : Int))
  else float (if negative then -n.toFloat else n.toFloat)

theorem signed_append (negative : Bool) (cs rest : List Char) :
    signed negative cs ++ rest = signed negative (cs ++ rest) := by
  cases negative <;> rfl

theorem text_append {n : Numeral} {c : Char} {cs : List Char} (h : n.whole = c :: cs)
    (rest : List Char) :
    n.text ++ rest = c :: (cs ++ (Numeral.fractionText n.fraction ++
      (Numeral.exponentText n.exponent ++ rest))) := by
  simp [Numeral.text, h]

theorem number?_numeral (negative : Bool) (n : Numeral) {rest : List Char} (hrest : Closes rest) :
    number? (signed negative n.text ++ rest) = some (ofNumeral negative n, rest) := by
  have hexponent := exponent?_numeral n hrest
  have hend := endsDigits_exponentText n.exponent hrest
  have hpoint : (Numeral.exponentText n.exponent ++ rest).head? ≠ some '.' := by
    cases he : n.exponent with
    | none =>
      intro hhead
      exact absurd (hrest '.' hhead) (by decide)
    | some e => simp [Numeral.exponentText]
  have hfraction := fraction?_numeral n hend hpoint
  have hwhole := whole?_numeral n (endsDigits_fractionText n.fraction hend)
  -- without a sign the first character has to be seen not to be a minus
  obtain ⟨c, cs, hcs, hc⟩ := n.exists_whole_cons
  have hminus : c ≠ '-' := ne_of_isAsciiDigit hc (by decide)
  rw [signed_append, text_append hcs]
  rw [hcs, List.cons_append] at hwhole
  cases negative <;> simp only [signed, number?, hwhole, List.cons.injEq, hminus, false_and,
    false_implies, implies_true, Option.bind_eq_bind, Option.bind_some, hfraction,
    if_true, if_false, Bool.false_eq_true]
  all_goals
    cases hf : n.fraction <;> simp only [Option.map_none, Option.map_some, Numeral.fractionText,
      List.nil_append, hexponent] <;> cases he : n.exponent <;>
      simp [hf, he, ofNumeral, Numeral.toFloat, Numeral.exponentText, Numeral.exponentValue, hcs]

theorem word?_of_head {word : String} {c d : Char} {ds cs : List Char}
    (hword : word.toList = d :: ds) (h : d ≠ c) : word? word (c :: cs) = none := by
  simp [word?, hword, List.isPrefixOf, h]

/-- What starts with a digit, a minus apart, is no word. -/
theorem atom?_of_digit (negative : Bool) {c : Char} (hc : Text.isAsciiDigit c = true)
    (cs : List Char) :
    atom? (signed negative (c :: cs)) = number? (signed negative (c :: cs)) := by
  have hne : ∀ d : Char, Text.isAsciiDigit d = false → d ≠ c :=
    fun d hd => (ne_of_isAsciiDigit hc hd).symm
  cases negative with
  | true =>
    have hinfinity : word? "-Infinity" ('-' :: c :: cs) = none := by
      have hI := hne 'I' (by decide)
      simp [word?, List.isPrefixOf, hI]
    show atom? ('-' :: c :: cs) = number? ('-' :: c :: cs)
    rw [atom?, hinfinity, word?_of_head rfl (by decide), word?_of_head rfl (by decide),
      word?_of_head rfl (by decide), word?_of_head rfl (by decide), word?_of_head rfl (by decide)]
  | false =>
    show atom? (c :: cs) = number? (c :: cs)
    rw [atom?, word?_of_head rfl (hne _ (by decide)), word?_of_head rfl (hne _ (by decide)),
      word?_of_head rfl (hne _ (by decide)), word?_of_head rfl (hne _ (by decide)),
      word?_of_head rfl (hne _ (by decide)), word?_of_head rfl (hne _ (by decide))]

theorem atom?_numeral (negative : Bool) (n : Numeral) {rest : List Char} (hrest : Closes rest) :
    atom? (signed negative n.text ++ rest) = some (ofNumeral negative n, rest) := by
  obtain ⟨c, cs, hcs, hc⟩ := n.exists_whole_cons
  rw [← number?_numeral negative n hrest, signed_append, text_append hcs,
    atom?_of_digit negative hc]

end Json

namespace Number

/-! ## Numerals in settings -/

/-- What holds of the ten digits. -/
theorem forall_isAsciiDigit {p : Char → Prop} [DecidablePred p]
    (h : (['0', '1', '2', '3', '4', '5', '6', '7', '8', '9'].all fun c => decide (p c)) = true)
    {c : Char} (hc : Text.isAsciiDigit c = true) : p c := by
  have hmem : c ∈ ['0', '1', '2', '3', '4', '5', '6', '7', '8', '9'] := by
    simp only [Text.isAsciiDigit, Bool.and_eq_true, decide_eq_true_eq, Char.le_def,
      UInt32.le_iff_toNat_le] at hc
    have hlow : 48 ≤ c.toNat := hc.1
    have hhigh : c.toNat ≤ 57 := hc.2
    obtain ⟨n, hn, hcode⟩ : ∃ n, n < 10 ∧ c.toNat = n + 48 := ⟨c.toNat - 48, by omega, by omega⟩
    have hall : ∀ n, n < 10 →
        Char.ofNat (n + 48) ∈ ['0', '1', '2', '3', '4', '5', '6', '7', '8', '9'] := by decide
    rw [← Char.ofNat_toNat c, hcode]
    exact hall n hn
  exact forall_mem_of_all h c hmem

theorem digitValue?_of_isAsciiDigit {c : Char} (hc : Text.isAsciiDigit c = true) :
    Text.digitValue? c = some (c.toNat - '0'.toNat) :=
  forall_isAsciiDigit (p := fun c => Text.digitValue? c = some (c.toNat - '0'.toNat)) (by decide) hc

/-- Neither a digit nor an underscore follows. -/
def EndsRun (rest : List Char) : Prop :=
  ∀ c ∈ rest.head?, Text.digitValue? c = none ∧ c ≠ '_'

theorem digitRun_append {ds rest : List Char} (hds : ∀ c ∈ ds, Text.isAsciiDigit c = true)
    (hrest : EndsRun rest) (after : Bool) :
    digitRun after (ds ++ rest) = (digitValues ds, rest) := by
  induction ds generalizing after with
  | nil =>
    cases rest with
    | nil => rfl
    | cons c rest =>
      obtain ⟨hdigit, hunderscore⟩ := hrest c rfl
      simp [digitRun, hdigit, hunderscore, digitValues]
  | cons c ds ih =>
    have hc := digitValue?_of_isAsciiDigit (hds c List.mem_cons_self)
    have hmore := ih (fun d hd => hds d (List.mem_cons_of_mem _ hd)) true
    simp only [List.cons_append, digitRun, hc, hmore, digitValues, List.map_cons]

theorem endsRun_nil : EndsRun [] :=
  fun _ h => by cases h

theorem endsRun_cons {c : Char} (h : Text.digitValue? c = none ∧ c ≠ '_') (rest : List Char) :
    EndsRun (c :: rest) := by
  intro d hd
  obtain rfl : c = d := by simpa using hd
  exact h

theorem endsRun_exponentText (e : Option (Bool × List Char)) :
    EndsRun (Numeral.exponentText e) := by
  cases e with
  | none => exact endsRun_nil
  | some e => exact endsRun_cons (by decide) _

theorem digitRun_isDigits {ds rest : List Char} (hds : IsDigits ds) (hrest : EndsRun rest) :
    ∃ v vs, digitValues ds = v :: vs ∧ digitRun false (ds ++ rest) = (v :: vs, rest) := by
  have hne : digitValues ds ≠ [] := by simpa [digitValues] using hds.ne_nil
  obtain ⟨v, vs, hvalues⟩ := List.exists_cons_of_ne_nil hne
  exact ⟨v, vs, hvalues, hvalues ▸ digitRun_append hds.digits hrest false⟩

theorem exponentPart_numeral (n : Numeral) :
    exponentPart (Numeral.exponentText n.exponent) = some (Numeral.exponentValue n.exponent) := by
  cases he : n.exponent with
  | none => rfl
  | some e =>
    obtain ⟨negative, ds⟩ := e
    obtain ⟨v, vs, hvalues, hrun⟩ := digitRun_isDigits (n.isDigits_exponent _ he) endsRun_nil
    rw [List.append_nil] at hrun
    have hsign : signOf ((if negative then '-' else '+') :: ds) = (negative, ds) := by
      cases negative <;> rfl
    simp [Numeral.exponentText, exponentPart, hsign, hrun, Numeral.exponentValue, hvalues]

theorem unsigned?_numeral (n : Numeral) : unsigned? n.text = some n.toFloat := by
  have hexponent := exponentPart_numeral n
  have hend := endsRun_exponentText n.exponent
  cases hf : n.fraction with
  | none =>
    obtain ⟨v, vs, hvalues, hrun⟩ := digitRun_isDigits n.isDigits_whole hend
    have htext : n.text = n.whole ++ Numeral.exponentText n.exponent := by
      simp [Numeral.text, hf, Numeral.fractionText]
    rw [htext, unsigned?, hrun]
    cases he : n.exponent <;> rw [he] at hexponent <;>
      simp_all [Numeral.exponentText, Numeral.toFloat]
  | some ds =>
    have hpoint : EndsRun ('.' :: (ds ++ Numeral.exponentText n.exponent)) :=
      endsRun_cons (by decide) _
    obtain ⟨v, vs, hvalues, hrun⟩ := digitRun_isDigits n.isDigits_whole hpoint
    have hfraction := digitRun_append (n.isDigits_fraction ds hf).digits hend false
    have htext : n.text = n.whole ++ '.' :: (ds ++ Numeral.exponentText n.exponent) := by
      simp [Numeral.text, hf, Numeral.fractionText]
    rw [htext, unsigned?, hrun]
    simp [hfraction, hexponent, Numeral.toFloat, hf, hvalues]

theorem word?_of_digit {c : Char} (hc : Text.isAsciiDigit c = true) (cs : List Char) :
    word? (c :: cs) = none := by
  have hsmall : Text.isAsciiDigit (Text.smallLetter c) = true :=
    forall_isAsciiDigit (p := fun c => Text.isAsciiDigit (Text.smallLetter c) = true) (by decide) hc
  have hne : ∀ {name : String} {d : Char} {ds : List Char}, name.toList = d :: ds →
      Text.isAsciiDigit d = false → String.ofList (Text.lowerCase (c :: cs)) ≠ name := by
    intro name d ds hname hd heq
    have htexts := congrArg String.toList heq
    rw [String.toList_ofList, hname] at htexts
    exact ne_of_isAsciiDigit hsmall hd (List.cons.inj htexts).1
  unfold word?
  rw [if_neg (not_or.mpr ⟨hne rfl (by decide), hne rfl (by decide)⟩),
    if_neg (hne rfl (by decide))]

theorem trimBy_of_not {p : Char → Bool} {cs : List Char} (h : ∀ c ∈ cs, p c = false) :
    Text.trimBy p cs = cs := by
  have hdrop : ∀ {ds : List Char}, (∀ c ∈ ds, p c = false) → ds.dropWhile p = ds := by
    intro ds hds
    cases ds with
    | nil => rfl
    | cons d ds => simp [hds d]
  rw [Text.trimBy, hdrop h, hdrop (by simpa using h), List.reverse_reverse]

theorem trimBy_isMargin {cs : List Char} (h : ∀ c ∈ cs, c ∈ numeralSigns) :
    Text.trimBy isMargin cs = cs := by
  have hsigns : ∀ c ∈ numeralSigns, isMargin c = false := forall_mem_of_all (by decide)
  exact trimBy_of_not fun c hc => hsigns c (h c hc)

theorem signOf_numeral (negative : Bool) (n : Numeral) :
    signOf (signed negative n.text) = (negative, n.text) := by
  obtain ⟨c, cs, hcs, hc⟩ := n.exists_whole_cons
  cases negative with
  | true => rfl
  | false =>
    have hminus : c ≠ '-' := ne_of_isAsciiDigit hc (by decide)
    have hplus : c ≠ '+' := ne_of_isAsciiDigit hc (by decide)
    simp [signed, Numeral.text, hcs, signOf, hminus, hplus]

/-- The text of a finite float stands for the float that its numeral is nearest to. -/
theorem ofText?_numeral {s : String} {negative : Bool} {n : Numeral}
    (hsigns : ∀ c ∈ s.toList, c ∈ numeralSigns) (h : s.toList = signed negative n.text) :
    ofText? s = some (if negative then -n.toFloat else n.toFloat) := by
  obtain ⟨c, cs, hcs, hc⟩ := n.exists_whole_cons
  have hword : word? n.text = none := by
    rw [Numeral.text, hcs, List.cons_append]
    exact word?_of_digit hc _
  rw [ofText?, trimBy_isMargin hsigns, h, signOf_numeral]
  simp [hword, unsigned?_numeral]

/-- The float that the text of a float stands for. It is the same float, if floats are read back
from their texts. -/
def reread (x : Float) : Float :=
  (ofText? (text x)).getD x

end Number

namespace Json

open Number

theorem ofNumeral_of_not_isWhole {n : Numeral} (h : ¬ n.IsWhole) (negative : Bool) :
    ofNumeral negative n = float (if negative then -n.toFloat else n.toFloat) := by
  have hnone : (n.fraction.isNone && n.exponent.isNone) = false := by
    simpa [Numeral.IsWhole, Option.isSome_iff_ne_none] using h
  rw [ofNumeral, hnone]
  rfl

theorem floatText_of_finite {x : Float} {negative : Bool} {mantissa : Nat} {exponent : Int}
    (h : parts x = .finite negative mantissa exponent) : floatText x = (text x).toList := by
  rw [floatText, h]

/-- Floats are read from JSON text as from their own texts. -/
theorem atom?_floatText (x : Float) {rest : List Char} (hrest : Closes rest) :
    atom? (floatText x ++ rest) = some (float (reread x), rest) := by
  cases hparts : parts x with
  | notANumber =>
    have htext : text x = "nan" := by rw [text, hparts]
    have hread : ofText? "nan" = some (0.0 / 0.0) := by decide
    rw [reread, htext, hread, floatText, hparts]
    rfl
  | infinite negative =>
    have htext : text x = String.ofList (signed negative ['i', 'n', 'f']) := by rw [text, hparts]
    rw [reread, htext, floatText, hparts]
    cases negative with
    | false =>
      have hread : ofText? (String.ofList (signed false ['i', 'n', 'f'])) = some (1.0 / 0.0) := by
        decide
      rw [hread]
      rfl
    | true =>
      have hread : ofText? (String.ofList (signed true ['i', 'n', 'f'])) = some (-1.0 / 0.0) := by
        decide +kernel
      rw [hread]
      rfl
  | finite negative mantissa exponent =>
    obtain ⟨n, hwhole, hn⟩ := exists_numeral_text hparts
    have hread := ofText?_numeral (isFloatText_text x).signs hn
    rw [floatText_of_finite hparts, hn, atom?_numeral negative n hrest,
      ofNumeral_of_not_isWhole hwhole, reread, hread]
    rfl

theorem digitsValue_toDigits (n : Nat) : digitsValue (digitValues (Nat.toDigits 10 n)) = n := by
  rw [digitsValue, digitValues, List.foldl_map]
  exact Nat.ofDigitChars_ten_toDigits

/-- Whole numbers are read back. -/
theorem atom?_toString (n : Int) {rest : List Char} (hrest : Closes rest) :
    atom? ((toString n).toList ++ rest) = some (int n, rest) := by
  have hvalue : ofNumeral (decide (n < 0)) (Numeral.ofNat n.natAbs) = int n := by
    simp only [ofNumeral, Numeral.ofNat, Option.isNone_none, Bool.and_self, if_true,
      digitsValue_toDigits, decide_eq_true_eq]
    congr 1
    split <;> omega
  rw [toList_toString_numeral, atom?_numeral _ _ hrest, hvalue]

end Json
end RiftScript
