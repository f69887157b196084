/-
JSON text can be taken apart in one way only.

The text of a document says where it ends, provided that what follows could follow a value. So two
documents with the same text are the same, whatever comes after them. Nothing is said about the
texts of floats but that they are numerals: documents are told apart as far as the floats in them
are.

For strings the reader of JSON text is used. It undoes every escape, and what follows the closing
quote is left over.
-/
import RiftScript.Json.Read
import RiftScript.Proofs.Trees.Words

namespace RiftScript
namespace Json

/-! ## Strings -/

theorem hexValue?_digitChar {n : Nat} (h : n < 16) : hexValue? (Nat.digitChar n) = some n := by
  have hall : ∀ n, n < 16 → hexValue? (Nat.digitChar n) = some n := by decide
  exact hall n h

theorem unit?_hexDigits {n : Nat} (h : n < 0x10000) (rest : List Char) :
    unit? (Text.hexDigits 4 n ++ rest) = some n := by
  have hdigits : Text.hexDigits 4 n = [Nat.digitChar (n / 16 / 16 / 16 % 16),
      Nat.digitChar (n / 16 / 16 % 16), Nat.digitChar (n / 16 % 16), Nat.digitChar (n % 16)] := rfl
  rw [hdigits]
  simp only [List.cons_append, List.nil_append, unit?]
  rw [hexValue?_digitChar (by omega), hexValue?_digitChar (by omega),
    hexValue?_digitChar (by omega), hexValue?_digitChar (by omega)]
  show some _ = some n
  congr 1
  omega

theorem numericEscape?_unit {c : Char} (h : c.toNat < 0x10000) (rest : List Char) :
    numericEscape? (Text.hexDigits 4 c.toNat ++ rest) = some (c, 4) := by
  have hvalid : c.toNat < 0xD800 ∨ 0xDFFF < c.toNat := by
    rcases c.valid with hlow | hhigh
    · exact .inl hlow
    · exact .inr hhigh.1
  unfold numericEscape?
  rw [unit?_hexDigits h]
  simp only [Option.bind_eq_bind, Option.bind_some]
  rw [if_neg (by omega), if_neg (by omega), Char.ofNat_toNat]

theorem lowHalf?_unitEscape {low : Nat} (h : 0xDC00 ≤ low ∧ low < 0xE000) (rest : List Char) :
    lowHalf? (unitEscape low ++ rest) = some low := by
  rw [unitEscape, List.cons_append, List.cons_append, lowHalf?, unit?_hexDigits (by omega)]
  simp only [Option.bind_eq_bind, Option.bind_some]
  rw [if_pos h]

/-- A character past U+FFFF is read from its two halves. -/
theorem numericEscape?_halves {high low : Nat} (hhigh : 0xD800 ≤ high ∧ high < 0xDC00)
    (hlow : 0xDC00 ≤ low ∧ low < 0xE000) (rest : List Char) :
    numericEscape? (Text.hexDigits 4 high ++ (unitEscape low ++ rest)) =
      some (Char.ofNat (0x10000 + (high - 0xD800) * 0x400 + (low - 0xDC00)), 10) := by
  have hdrop :
      (Text.hexDigits 4 high ++ (unitEscape low ++ rest)).drop 4 = unitEscape low ++ rest :=
    List.drop_left' (Text.hexDigits_length 4 high)
  rw [numericEscape?, unit?_hexDigits (by omega), hdrop, lowHalf?_unitEscape hlow]
  simp only [Option.bind_eq_bind, Option.bind_some]
  rw [if_pos hhigh]

theorem stringBody_skip (cs : List Char) {skipped : List Char} {n : Nat} (h : skipped.length = n) :
    stringBody n (skipped ++ cs) = stringBody 0 cs := by
  subst h
  induction skipped with
  | nil => rfl
  | cons c skipped ih => exact ih

/-- An escape that stands for a character is read as it. -/
theorem stringBody_escape {c : Char} (escape : List Char) {rest : List Char}
    (h : escape? (escape ++ rest) = some (c, escape.length)) :
    stringBody 0 ('\\' :: (escape ++ rest)) =
      (stringBody 0 rest).map fun r => (c :: r.1, r.2) := by
  rw [stringBody, if_neg (by decide), if_pos rfl, h]
  simp only [Option.bind_eq_bind, Option.bind_some]
  rw [stringBody_skip rest rfl]
  cases stringBody 0 rest <;> rfl

theorem stringBody_unit {c : Char} (h : c.toNat < 0x10000) (rest : List Char) :
    stringBody 0 (unitEscape c.toNat ++ rest) =
      (stringBody 0 rest).map fun r => (c :: r.1, r.2) := by
  refine stringBody_escape ('u' :: Text.hexDigits 4 c.toNat) ?_
  rw [List.cons_append, escape?, numericEscape?_unit h, List.length_cons, Text.hexDigits_length]
  rfl

theorem stringBody_halves {c : Char} {high low : Nat} (hhigh : 0xD800 ≤ high ∧ high < 0xDC00)
    (hlow : 0xDC00 ≤ low ∧ low < 0xE000)
    (hc : 0x10000 + (high - 0xD800) * 0x400 + (low - 0xDC00) = c.toNat) (rest : List Char) :
    stringBody 0 (unitEscape high ++ unitEscape low ++ rest) =
      (stringBody 0 rest).map fun r => (c :: r.1, r.2) := by
  refine stringBody_escape ('u' :: (Text.hexDigits 4 high ++ unitEscape low)) ?_
  have hlength : ('u' :: (Text.hexDigits 4 high ++ unitEscape low)).length = 11 := by
    simp [unitEscape]
  rw [hlength, List.cons_append, List.append_assoc, escape?, numericEscape?_halves hhigh hlow, hc,
    Char.ofNat_toNat]
  rfl

theorem stringBody_stringChar (c : Char) (rest : List Char) :
    stringBody 0 (stringChar c ++ rest) = (stringBody 0 rest).map fun r => (c :: r.1, r.2) := by
  unfold stringChar
  split
  · next h => exact h ▸ stringBody_escape ['"'] rfl
  split
  · next h => exact h ▸ stringBody_escape ['\\'] rfl
  split
  · next h => exact h ▸ stringBody_escape ['n'] rfl
  split
  · next h => exact h ▸ stringBody_escape ['r'] rfl
  split
  · next h => exact h ▸ stringBody_escape ['t'] rfl
  split
  · next h =>
    obtain rfl : c = Char.ofNat 8 := Char.toNat_inj.mp h
    exact stringBody_escape ['b'] rfl
  split
  · next h =>
    obtain rfl : c = Char.ofNat 12 := Char.toNat_inj.mp h
    exact stringBody_escape ['f'] rfl
  split
  · next hquote hbackslash _ _ _ _ _ hprintable =>
    rw [List.singleton_append, stringBody, if_neg hquote, if_neg hbackslash, if_neg (by omega)]
    cases stringBody 0 rest <;> rfl
  split
  · next hunit => exact stringBody_unit hunit rest
  · next hunit =>
    have hbound : c.toNat < 0x110000 := by
      rcases c.valid with hlow | hhigh
      · exact Nat.lt_trans hlow (by decide)
      · exact hhigh.2
    exact stringBody_halves (by omega) (by omega) (by omega) rest

theorem stringBody_written (cs rest : List Char) :
    stringBody 0 (cs.flatMap stringChar ++ '"' :: rest) = some (cs, rest) := by
  induction cs with
  | nil => rfl
  | cons c cs ih =>
    rw [List.flatMap_cons, List.append_assoc, stringBody_stringChar, ih]
    rfl

/-- A string is read back, and what follows it is left over. -/
theorem string?_stringText (s : String) (rest : List Char) :
    string? (stringText s ++ rest) = some (s, rest) := by
  rw [stringText, List.cons_append, List.cons_append, List.append_assoc, List.singleton_append,
    string?, stringBody_written]
  simp

theorem stringText_append_inj {s t : String} {rest rest' : List Char}
    (h : stringText s ++ rest = stringText t ++ rest') : s = t ∧ rest = rest' := by
  have hread := congrArg string? h
  rw [string?_stringText, string?_stringText] at hread
  injection hread with hpair
  exact Prod.mk.inj hpair

/-! ## Words -/

/-- The signs that stand before, between and after values. -/
def delimiters : List Char :=
  [',', ']', '}', '"', '[', '{']

/-- Nothing follows, or a sign that may follow a value. -/
def Closes (rest : List Char) : Prop :=
  ∀ c ∈ rest.head?, c ∈ [',', ']', '}']

theorem Closes.delimiter {rest : List Char} (h : Closes rest) :
    ∀ c ∈ rest.head?, c ∈ delimiters := by
  have hsub : [',', ']', '}'] ⊆ delimiters := by decide
  exact fun c hc => hsub (h c hc)

theorem closes_cons {c : Char} (h : c ∈ [',', ']', '}']) (rest : List Char) :
    Closes (c :: rest) := by
  intro d hd
  obtain rfl : c = d := by simpa using hd
  exact h

/-- The text of a value that is written as a word. -/
def wordText? : Json → Option (List Char)
  | null => some "null".toList
  | bool true => some "true".toList
  | bool false => some "false".toList
  | int n => some (toString n).toList
  | float x => some (floatText x)
  | str _ | arr _ | obj _ => none

theorem write_of_wordText? {j : Json} {word : List Char} (h : j.wordText? = some word)
    (rest : List Char) : j.write rest = word ++ rest := by
  cases j with
  | bool b => cases b <;> cases h <;> rfl
  | str _ | arr _ | obj _ => cases h
  | _ =>
    cases h
    rfl

/-- A word is not empty and holds no delimiter. -/
theorem wordText?_plain {j : Json} {word : List Char} (h : j.wordText? = some word) :
    word ≠ [] ∧ ∀ c ∈ word, c ∉ delimiters := by
  have hnumeral : ∀ c ∈ Number.numeralSigns, c ∉ delimiters := forall_mem_of_all (by decide)
  cases j with
  | null =>
    cases h
    exact ⟨by decide, forall_mem_of_all (by decide)⟩
  | bool b =>
    cases b <;> cases h <;> exact ⟨by decide, forall_mem_of_all (by decide)⟩
  | int n =>
    cases h
    refine ⟨Number.toString_ne_nil n, fun c hc => hnumeral c ?_⟩
    exact Number.integerSigns_subset (Number.mem_integerSigns_of_mem_toString hc)
  | float x =>
    cases h
    have hfloat := Number.isFloatText_floatText x
    exact ⟨hfloat.ne_nil, fun c hc => hnumeral c (hfloat.signs c hc)⟩
  | str _ | arr _ | obj _ => cases h

/-- A word with a sign that no number has is one of three. -/
theorem eq_of_not_numeral {j : Json} {word : List Char} (h : j.wordText? = some word)
    (hsign : ∃ c ∈ word, c ∉ Number.numeralSigns) : j = null ∨ j = bool true ∨ j = bool false := by
  obtain ⟨c, hc, hno⟩ := hsign
  cases j with
  | null => exact .inl rfl
  | bool b => cases b <;> simp
  | int n =>
    cases h
    exact absurd (Number.integerSigns_subset (Number.mem_integerSigns_of_mem_toString hc)) hno
  | float x =>
    cases h
    exact absurd ((Number.isFloatText_floatText x).signs c hc) hno
  | str _ | arr _ | obj _ => cases h

theorem eq_of_numeral {j : Json} {word : List Char} (h : j.wordText? = some word)
    (hsigns : ∀ c ∈ word, c ∈ Number.numeralSigns) : (∃ n, j = int n) ∨ ∃ x, j = float x := by
  cases j with
  | null =>
    cases h
    exact absurd (hsigns 'u' (by decide)) (by decide)
  | bool b =>
    cases b with
    | true =>
      cases h
      exact absurd (hsigns 'r' (by decide)) (by decide)
    | false =>
      cases h
      exact absurd (hsigns 'l' (by decide)) (by decide)
  | int n => exact .inl ⟨n, rfl⟩
  | float x => exact .inr ⟨x, rfl⟩
  | str _ | arr _ | obj _ => cases h

/-- Values that are written as the same word are the same, as far as floats are. -/
theorem wordText?_inj {j k : Json} {word : List Char} (hj : j.wordText? = some word)
    (hk : k.wordText? = some word)
    (hfloat : ∀ x y, j = float x → k = float y → floatText x = floatText y → x = y) : j = k := by
  by_cases hsign : ∃ c ∈ word, c ∉ Number.numeralSigns
  · have hwords := hj.trans hk.symm
    rcases eq_of_not_numeral hj hsign with rfl | rfl | rfl <;>
      rcases eq_of_not_numeral hk hsign with rfl | rfl | rfl <;>
      first | rfl | exact absurd hwords (by decide)
  · have hsigns : ∀ c ∈ word, c ∈ Number.numeralSigns := by simpa using hsign
    -- A float has a sign that no whole number has, so the two kinds are never written alike.
    have hmixed : ∀ {n : Int} {x : Float}, (toString n).toList ≠ floatText x := by
      intro n x heq
      obtain ⟨c, hc, hno⟩ := (Number.isFloatText_floatText x).fractional
      exact hno (Number.mem_integerSigns_of_mem_toString (heq ▸ hc))
    rcases eq_of_numeral hj hsigns with ⟨m, rfl⟩ | ⟨x, rfl⟩ <;>
      rcases eq_of_numeral hk hsigns with ⟨n, rfl⟩ | ⟨y, rfl⟩ <;>
      have hwords := Option.some.inj (hj.trans hk.symm)
    · rw [Number.toString_injective hwords]
    · exact absurd hwords hmixed
    · exact absurd hwords.symm hmixed
    · rw [hfloat x y rfl rfl hwords]

/-! ## Documents -/

mutual

/-- The floats in a document, in order. -/
def floats : Json → List Float
  | float x => [x]
  | arr items => floatsOfItems items
  | obj fields => floatsOfFields fields
  | null | bool _ | int _ | str _ => []

def floatsOfItems : List Json → List Float
  | [] => []
  | j :: js => j.floats ++ floatsOfItems js

def floatsOfFields : List (String × Json) → List Float
  | [] => []
  | (_, j) :: fields => j.floats ++ floatsOfFields fields

end

/-- Floats of the first list are the same as floats of the second if they are written alike. -/
def ToldApart (xs ys : List Float) : Prop :=
  ∀ x ∈ xs, ∀ y ∈ ys, floatText x = floatText y → x = y

theorem ToldApart.append {xs xs' ys ys' : List Float} (h : ToldApart (xs ++ xs') (ys ++ ys')) :
    ToldApart xs ys ∧ ToldApart xs' ys' :=
  ⟨fun x hx y hy => h x (List.mem_append_left _ hx) y (List.mem_append_left _ hy),
    fun x hx y hy => h x (List.mem_append_right _ hx) y (List.mem_append_right _ hy)⟩

theorem eq_of_not_word {j : Json} (h : j.wordText? = none) :
    (∃ s, j = str s) ∨ (∃ items, j = arr items) ∨ ∃ fields, j = obj fields := by
  cases j with
  | str s => exact .inl ⟨s, rfl⟩
  | arr items => exact .inr (.inl ⟨items, rfl⟩)
  | obj fields => exact .inr (.inr ⟨fields, rfl⟩)
  | bool b => cases b <;> cases h
  | null | int _ | float _ => cases h

/-- The sign that a value that is no word opens with. -/
theorem write_of_not_word {j : Json} (h : j.wordText? = none) (rest : List Char) :
    ∃ c cs, j.write rest = c :: cs ∧ c ∈ ['"', '[', '{'] := by
  rcases eq_of_not_word h with ⟨s, rfl⟩ | ⟨items, rfl⟩ | ⟨fields, rfl⟩
  · exact ⟨_, _, rfl, by decide⟩
  · exact ⟨_, _, rfl, by decide⟩
  · exact ⟨_, _, rfl, by decide⟩

/-- No value opens with a sign that closes one. -/
theorem write_opens (j : Json) (rest : List Char) :
    ∃ c cs, j.write rest = c :: cs ∧ c ∉ [',', ']', '}'] := by
  cases hword : j.wordText? with
  | some word =>
    obtain ⟨hne, hplain⟩ := wordText?_plain hword
    obtain ⟨c, cs, rfl⟩ := List.exists_cons_of_ne_nil hne
    have hsub : [',', ']', '}'] ⊆ delimiters := by decide
    exact ⟨c, cs ++ rest, write_of_wordText? hword rest,
      fun hc => hplain c List.mem_cons_self (hsub hc)⟩
  | none =>
    obtain ⟨c, cs, hwrite, hc⟩ := write_of_not_word hword rest
    have hdisjoint : ∀ c ∈ ['"', '[', '{'], c ∉ [',', ']', '}'] := forall_mem_of_all (by decide)
    exact ⟨c, cs, hwrite, hdisjoint c hc⟩

theorem write_ne_bracket (j : Json) (rest rest' : List Char) : j.write rest ≠ ']' :: rest' := by
  intro h
  obtain ⟨c, cs, hwrite, hc⟩ := j.write_opens rest
  rw [hwrite] at h
  obtain ⟨rfl, _⟩ := List.cons.inj h
  exact hc (by decide)

theorem write_word_inj {j k : Json} {word rest rest' : List Char} (hj : j.wordText? = some word)
    (hrest : Closes rest) (hrest' : Closes rest') (h : j.write rest = k.write rest') :
    k.wordText? = some word ∧ rest = rest' := by
  obtain ⟨hne, hplain⟩ := wordText?_plain hj
  rw [write_of_wordText? hj] at h
  cases hk : k.wordText? with
  | some other =>
    rw [write_of_wordText? hk] at h
    obtain ⟨rfl, hsame⟩ := word_append_inj hplain (wordText?_plain hk).2 hrest.delimiter
      hrest'.delimiter h
    exact ⟨rfl, hsame⟩
  | none =>
    obtain ⟨c, cs, hwrite, hc⟩ := write_of_not_word hk rest'
    obtain ⟨d, ds, rfl⟩ := List.exists_cons_of_ne_nil hne
    rw [hwrite] at h
    obtain ⟨rfl, _⟩ := List.cons.inj h
    have hsub : ['"', '[', '{'] ⊆ delimiters := by decide
    exact absurd (hsub hc) (hplain d List.mem_cons_self)

/-- Values that are no words and are written alike are of the same kind. -/
theorem write_kind {j k : Json} {rest rest' : List Char} (hj : j.wordText? = none)
    (hrest : Closes rest) (hrest' : Closes rest') (h : j.write rest = k.write rest') :
    (∃ s t, j = str s ∧ k = str t) ∨ (∃ xs ys, j = arr xs ∧ k = arr ys) ∨
      ∃ xs ys, j = obj xs ∧ k = obj ys := by
  have hk : k.wordText? = none := by
    cases hword : k.wordText? with
    | none => rfl
    | some word =>
      rw [(write_word_inj hword hrest' hrest h.symm).1] at hj
      cases hj
  rcases eq_of_not_word hj with ⟨s, rfl⟩ | ⟨xs, rfl⟩ | ⟨xs, rfl⟩ <;>
    rcases eq_of_not_word hk with ⟨t, rfl⟩ | ⟨ys, rfl⟩ | ⟨ys, rfl⟩
  · exact .inl ⟨s, t, rfl, rfl⟩
  · exact absurd (List.cons.inj h).1 (by decide)
  · exact absurd (List.cons.inj h).1 (by decide)
  · exact absurd (List.cons.inj h).1 (by decide)
  · exact .inr (.inl ⟨xs, ys, rfl, rfl⟩)
  · exact absurd (List.cons.inj h).1 (by decide)
  · exact absurd (List.cons.inj h).1 (by decide)
  · exact absurd (List.cons.inj h).1 (by decide)
  · exact .inr (.inr ⟨xs, ys, rfl, rfl⟩)

theorem write_inj_of_word {j k : Json} {word rest rest' : List Char} (hj : j.wordText? = some word)
    (htold : ToldApart j.floats k.floats) (hrest : Closes rest) (hrest' : Closes rest')
    (h : j.write rest = k.write rest') : j = k ∧ rest = rest' := by
  obtain ⟨hk, hsame⟩ := write_word_inj hj hrest hrest' h
  refine ⟨wordText?_inj hj hk ?_, hsame⟩
  rintro x y rfl rfl hxy
  exact htold x (List.mem_singleton_self x) y (List.mem_singleton_self y) hxy

theorem closes_comma (rest : List Char) : Closes (',' :: rest) :=
  closes_cons (by decide) rest

theorem closes_bracket (rest : List Char) : Closes (']' :: rest) :=
  closes_cons (by decide) rest

theorem closes_brace (rest : List Char) : Closes ('}' :: rest) :=
  closes_cons (by decide) rest

/-- No list of items is written as nothing, where the bracket follows. -/
theorem writeItems_ne {j : Json} {js : List Json} {rest rest' : List Char} :
    writeItems (j :: js) rest ≠ ']' :: rest' := by
  intro h
  cases js with
  | nil =>
    rw [writeItems] at h
    exact j.write_ne_bracket _ _ h
  | cons k js =>
    rw [writeItems] at h
    exact j.write_ne_bracket _ _ h

theorem writeFields_ne {key : String} {j : Json} {fields : List (String × Json)}
    {rest rest' : List Char} : writeFields ((key, j) :: fields) rest ≠ '}' :: rest' := by
  intro h
  cases fields with
  | nil =>
    rw [writeFields] at h
    exact absurd (List.cons.inj h).1 (by decide)
  | cons field fields =>
    obtain ⟨name, k⟩ := field
    rw [writeFields] at h
    exact absurd (List.cons.inj h).1 (by decide)

mutual

/-- The text of a document says what the document is and where it ends. -/
theorem write_inj : (j k : Json) → {rest rest' : List Char} → ToldApart j.floats k.floats →
    Closes rest → Closes rest' → j.write rest = k.write rest' → j = k ∧ rest = rest'
  | null, _, _, _, htold, hrest, hrest', h => write_inj_of_word rfl htold hrest hrest' h
  | bool true, _, _, _, htold, hrest, hrest', h => write_inj_of_word rfl htold hrest hrest' h
  | bool false, _, _, _, htold, hrest, hrest', h => write_inj_of_word rfl htold hrest hrest' h
  | int _, _, _, _, htold, hrest, hrest', h => write_inj_of_word rfl htold hrest hrest' h
  | float _, _, _, _, htold, hrest, hrest', h => write_inj_of_word rfl htold hrest hrest' h
  | str s, k, _, _, _, hrest, hrest', h => by
    rcases write_kind rfl hrest hrest' h with
      ⟨_, t, hs, rfl⟩ | ⟨_, _, hs, _⟩ | ⟨_, _, hs, _⟩ <;> cases hs
    obtain ⟨rfl, hsame⟩ := stringText_append_inj h
    exact ⟨rfl, hsame⟩
  | arr items, k, _, _, htold, hrest, hrest', h => by
    rcases write_kind rfl hrest hrest' h with
      ⟨_, _, hs, _⟩ | ⟨_, others, hs, rfl⟩ | ⟨_, _, hs, _⟩ <;> cases hs
    obtain ⟨rfl, hsame⟩ := writeItems_inj items others htold (List.cons.inj h).2
    exact ⟨rfl, hsame⟩
  | obj fields, k, _, _, htold, hrest, hrest', h => by
    rcases write_kind rfl hrest hrest' h with
      ⟨_, _, hs, _⟩ | ⟨_, _, hs, _⟩ | ⟨_, others, hs, rfl⟩ <;> cases hs
    obtain ⟨rfl, hsame⟩ := writeFields_inj fields others htold (List.cons.inj h).2
    exact ⟨rfl, hsame⟩

theorem writeItems_inj : (js ks : List Json) → {rest rest' : List Char} →
    ToldApart (floatsOfItems js) (floatsOfItems ks) →
    writeItems js (']' :: rest) = writeItems ks (']' :: rest') → js = ks ∧ rest = rest'
  | [], [], _, _, _, h => ⟨rfl, (List.cons.inj h).2⟩
  | [], k :: ks, _, _, _, h => absurd h.symm writeItems_ne
  | j :: js, [], _, _, _, h => absurd h writeItems_ne
  | [j], [k], _, _, htold, h => by
    obtain ⟨rfl, hsame⟩ :=
      write_inj j k htold.append.1 (closes_bracket _) (closes_bracket _) h
    exact ⟨rfl, (List.cons.inj hsame).2⟩
  | [j], k :: _ :: _, _, _, htold, h => by
    obtain ⟨_, hsame⟩ := write_inj j k htold.append.1 (closes_bracket _) (closes_comma _) h
    exact absurd (List.cons.inj hsame).1 (by decide)
  | j :: _ :: _, [k], _, _, htold, h => by
    obtain ⟨_, hsame⟩ := write_inj j k htold.append.1 (closes_comma _) (closes_bracket _) h
    exact absurd (List.cons.inj hsame).1 (by decide)
  | j :: i :: js, k :: l :: ks, _, _, htold, h => by
    obtain ⟨rfl, hsame⟩ := write_inj j k htold.append.1 (closes_comma _) (closes_comma _) h
    obtain ⟨hitems, hrest⟩ :=
      writeItems_inj (i :: js) (l :: ks) htold.append.2 (List.cons.inj hsame).2
    exact ⟨by rw [hitems], hrest⟩

theorem writeFields_inj : (fs gs : List (String × Json)) → {rest rest' : List Char} →
    ToldApart (floatsOfFields fs) (floatsOfFields gs) →
    writeFields fs ('}' :: rest) = writeFields gs ('}' :: rest') → fs = gs ∧ rest = rest'
  | [], [], _, _, _, h => ⟨rfl, (List.cons.inj h).2⟩
  | [], (_, _) :: _, _, _, _, h => absurd h.symm writeFields_ne
  | (_, _) :: _, [], _, _, _, h => absurd h writeFields_ne
  | [(key, j)], [(name, k)], _, _, htold, h => by
    obtain ⟨rfl, hvalue⟩ := stringText_append_inj h
    obtain ⟨rfl, hsame⟩ := write_inj j k htold.append.1 (closes_brace _) (closes_brace _)
      (List.cons.inj hvalue).2
    exact ⟨rfl, (List.cons.inj hsame).2⟩
  | [(key, j)], (name, k) :: _ :: _, _, _, htold, h => by
    obtain ⟨_, hvalue⟩ := stringText_append_inj h
    obtain ⟨_, hsame⟩ := write_inj j k htold.append.1 (closes_brace _) (closes_comma _)
      (List.cons.inj hvalue).2
    exact absurd (List.cons.inj hsame).1 (by decide)
  | (key, j) :: _ :: _, [(name, k)], _, _, htold, h => by
    obtain ⟨_, hvalue⟩ := stringText_append_inj h
    obtain ⟨_, hsame⟩ := write_inj j k htold.append.1 (closes_comma _) (closes_brace _)
      (List.cons.inj hvalue).2
    exact absurd (List.cons.inj hsame).1 (by decide)
  | (key, j) :: f :: fs, (name, k) :: g :: gs, _, _, htold, h => by
    obtain ⟨rfl, hvalue⟩ := stringText_append_inj h
    obtain ⟨rfl, hsame⟩ := write_inj j k htold.append.1 (closes_comma _) (closes_comma _)
      (List.cons.inj hvalue).2
    obtain ⟨hfields, hrest⟩ :=
      writeFields_inj (f :: fs) (g :: gs) htold.append.2 (List.cons.inj hsame).2
    exact ⟨by rw [hfields], hrest⟩

end

/-- Documents with the same text are the same, as far as floats can be told apart by theirs. -/
theorem compact_inj {j k : Json} (htold : ToldApart j.floats k.floats)
    (h : j.compact = k.compact) : j = k := by
  have htext : j.write [] = k.write [] := by
    have := congrArg String.toList h
    rwa [compact, compact, String.toList_ofList, String.toList_ofList] at this
  have hnil : Closes [] := fun _ hc => by cases hc
  exact (write_inj j k htold hnil hnil htext).1

end Json
end RiftScript
