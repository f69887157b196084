/-
JSON text is read back.

The reader undoes what the writer does, for every document in which no object has two fields of one
name: with the same name twice the reader would keep one field only. Nothing is assumed about
floats; each is read back as what its text stands for. The trees of scripts are such documents, so a
script is read back as its tree if its numbers are read back from their texts.

The text is ASCII whatever the strings in it hold.
-/
import RiftScript.Proofs.Scanning.Decoding
import RiftScript.Proofs.Trees.Numerals
import RiftScript.Proofs.Trees.Serialization

namespace RiftScript
namespace Json

open Number (reread)

/-! ## Documents -/

mutual

/-- A document with every float replaced. -/
def mapFloats (f : Float → Float) : Json → Json
  | float x => float (f x)
  | arr items => arr (mapFloatsOfItems f items)
  | obj fields => obj (mapFloatsOfFields f fields)
  | null => null
  | bool b => bool b
  | int n => int n
  | str s => str s

def mapFloatsOfItems (f : Float → Float) : List Json → List Json
  | [] => []
  | j :: js => j.mapFloats f :: mapFloatsOfItems f js

def mapFloatsOfFields (f : Float → Float) : List (String × Json) → List (String × Json)
  | [] => []
  | (key, j) :: fields => (key, j.mapFloats f) :: mapFloatsOfFields f fields

end

mutual

theorem mapFloats_eq_self {f : Float → Float} : (j : Json) → (∀ x ∈ j.floats, f x = x) →
    j.mapFloats f = j
  | null, _ => rfl
  | bool _, _ => rfl
  | int _, _ => rfl
  | str _, _ => rfl
  | float x, h => congrArg float (h x (List.mem_singleton_self x))
  | arr items, h => congrArg arr (mapFloatsOfItems_eq_self items h)
  | obj fields, h => congrArg obj (mapFloatsOfFields_eq_self fields h)

theorem mapFloatsOfItems_eq_self {f : Float → Float} : (js : List Json) →
    (∀ x ∈ floatsOfItems js, f x = x) → mapFloatsOfItems f js = js
  | [], _ => rfl
  | j :: js, h => by
    rw [mapFloatsOfItems, mapFloats_eq_self j fun x hx => h x (List.mem_append_left _ hx),
      mapFloatsOfItems_eq_self js fun x hx => h x (List.mem_append_right _ hx)]

theorem mapFloatsOfFields_eq_self {f : Float → Float} : (fields : List (String × Json)) →
    (∀ x ∈ floatsOfFields fields, f x = x) → mapFloatsOfFields f fields = fields
  | [], _ => rfl
  | (key, j) :: fields, h => by
    rw [mapFloatsOfFields, mapFloats_eq_self j fun x hx => h x (List.mem_append_left _ hx),
      mapFloatsOfFields_eq_self fields fun x hx => h x (List.mem_append_right _ hx)]

end

mutual

/-- No object of the document has two fields of one name. -/
def KeysDiffer : Json → Prop
  | arr items => KeysDifferInItems items
  | obj fields => (fields.map Prod.fst).Nodup ∧ KeysDifferInFields fields
  | null | bool _ | int _ | float _ | str _ => True

def KeysDifferInItems : List Json → Prop
  | [] => True
  | j :: js => j.KeysDiffer ∧ KeysDifferInItems js

def KeysDifferInFields : List (String × Json) → Prop
  | [] => True
  | (_, j) :: fields => j.KeysDiffer ∧ KeysDifferInFields fields

end

mutual

/-- What follows a value is written behind it as it is. -/
theorem write_append : (j : Json) → (cs rest : List Char) → j.write (cs ++ rest) = j.write cs ++ rest
  | null, _, _ => rfl
  | bool true, _, _ => rfl
  | bool false, _, _ => rfl
  | int _, _, _ => (List.append_assoc _ _ _).symm
  | float _, _, _ => (List.append_assoc _ _ _).symm
  | str _, _, _ => (List.append_assoc _ _ _).symm
  | arr items, cs, rest => congrArg ('[' :: ·) (writeItems_append items (']' :: cs) rest)
  | obj fields, cs, rest => congrArg ('{' :: ·) (writeFields_append fields ('}' :: cs) rest)

theorem writeItems_append : (js : List Json) → (cs rest : List Char) →
    writeItems js (cs ++ rest) = writeItems js cs ++ rest
  | [], _, _ => rfl
  | [j], cs, rest => write_append j cs rest
  | j :: k :: js, cs, rest => by
    rw [writeItems, writeItems, writeItems_append (k :: js) cs rest, ← write_append]
    rfl

theorem writeFields_append : (fields : List (String × Json)) → (cs rest : List Char) →
    writeFields fields (cs ++ rest) = writeFields fields cs ++ rest
  | [], _, _ => rfl
  | [(key, j)], cs, rest => by
    rw [writeFields, writeFields, write_append j cs rest]
    simp
  | (key, j) :: field :: fields, cs, rest => by
    rw [writeFields, writeFields, writeFields_append (field :: fields) cs rest, ← List.cons_append,
      write_append]
    simp

end

theorem length_write (j : Json) (rest : List Char) :
    (j.write rest).length = (j.write []).length + rest.length := by
  rw [← List.length_append, ← write_append, List.nil_append]

theorem length_writeItems (js : List Json) (rest : List Char) :
    (writeItems js rest).length = (writeItems js []).length + rest.length := by
  rw [← List.length_append, ← writeItems_append, List.nil_append]

theorem length_writeFields (fields : List (String × Json)) (rest : List Char) :
    (writeFields fields rest).length = (writeFields fields []).length + rest.length := by
  rw [← List.length_append, ← writeFields_append, List.nil_append]

theorem length_write_pos (j : Json) : 0 < (j.write []).length := by
  obtain ⟨c, cs, hwrite, _⟩ := j.write_opens []
  simp [hwrite]

/-! ## Reading documents back -/

theorem skipSpace_cons {c : Char} (h : isSpace c = false) (cs : List Char) :
    skipSpace (c :: cs) = c :: cs := by
  simp [skipSpace, h]

/-- The signs of numbers and of the three other words. -/
def wordSigns : List Char :=
  ['u', 'l', 'r', 's'] ++ Number.numeralSigns

theorem mem_wordSigns {j : Json} {word : List Char} (h : j.wordText? = some word) :
    ∀ c ∈ word, c ∈ wordSigns := by
  by_cases hsign : ∃ c ∈ word, c ∉ Number.numeralSigns
  · rcases eq_of_not_numeral h hsign with rfl | rfl | rfl <;> cases h <;>
      exact forall_mem_of_all (by decide)
  · intro c hc
    have hnumeral : c ∈ Number.numeralSigns := by simpa using fun hno => hsign ⟨c, hc, hno⟩
    exact List.mem_append_right _ hnumeral

/-- No blank stands in front of a value. -/
theorem skipSpace_write (j : Json) (rest : List Char) : skipSpace (j.write rest) = j.write rest := by
  cases hword : j.wordText? with
  | some word =>
    obtain ⟨c, cs, rfl⟩ := List.exists_cons_of_ne_nil (wordText?_plain hword).1
    have hsigns : ∀ c ∈ wordSigns, isSpace c = false := forall_mem_of_all (by decide)
    rw [write_of_wordText? hword]
    exact skipSpace_cons (hsigns c (mem_wordSigns hword c List.mem_cons_self)) _
  | none =>
    obtain ⟨c, cs, hwrite, hc⟩ := write_of_not_word hword rest
    have hopeners : ∀ c ∈ ['"', '[', '{'], isSpace c = false := forall_mem_of_all (by decide)
    rw [hwrite]
    exact skipSpace_cons (hopeners c hc) cs

theorem skipSpace_writeItems (j : Json) (js : List Json) (rest : List Char) :
    skipSpace (writeItems (j :: js) rest) = writeItems (j :: js) rest := by
  cases js with
  | nil => exact skipSpace_write j rest
  | cons k js => exact skipSpace_write j _

theorem skipSpace_writeFields (key : String) (j : Json) (fields : List (String × Json))
    (rest : List Char) :
    skipSpace (writeFields ((key, j) :: fields) rest) = writeFields ((key, j) :: fields) rest := by
  cases fields <;> exact skipSpace_cons (by decide) _

theorem atom?_word {j : Json} {word rest : List Char} (h : j.wordText? = some word)
    (hrest : Closes rest) : atom? (word ++ rest) = some (j.mapFloats reread, rest) := by
  cases j with
  | null =>
    cases h
    rfl
  | bool b => cases b <;> cases h <;> rfl
  | int n =>
    cases h
    exact atom?_toString n hrest
  | float x =>
    cases h
    exact atom?_floatText x hrest
  | str _ | arr _ | obj _ => cases h

theorem value?_word {j : Json} {word rest : List Char} (h : j.wordText? = some word)
    (hrest : Closes rest) (fuel : Nat) :
    value? (fuel + 1) (j.write rest) = some (j.mapFloats reread, rest) := by
  obtain ⟨hne, hplain⟩ := wordText?_plain h
  have hatom := atom?_word h hrest
  rw [write_of_wordText? h]
  obtain ⟨c, cs, rfl⟩ := List.exists_cons_of_ne_nil hne
  have hc : c ∉ delimiters := hplain c List.mem_cons_self
  have hquote : c ≠ '"' := fun heq => hc (heq ▸ by decide)
  have hbracket : c ≠ '[' := fun heq => hc (heq ▸ by decide)
  have hbrace : c ≠ '{' := fun heq => hc (heq ▸ by decide)
  rw [List.cons_append] at hatom ⊢
  simp [value?, hatom]

theorem setField_of_not_mem {key : String} {j : Json} {fields : List (String × Json)}
    (h : key ∉ fields.map Prod.fst) : setField key j fields = fields ++ [(key, j)] := by
  induction fields with
  | nil => rfl
  | cons field fields ih =>
    simp only [List.map_cons, List.mem_cons, not_or] at h
    rw [setField, if_neg (Ne.symm h.1), ih h.2, List.cons_append]

/-! Each rule of the reader, for texts without blanks. -/

section Rules

variable {fuel : Nat} {cs rest : List Char}

theorem value?_string (s : String) : value? (fuel + 1) (stringText s ++ rest) = some (str s, rest) := by
  have hread := string?_stringText s rest
  rw [stringText, List.cons_append, List.cons_append] at hread ⊢
  simp only [value?, hread, Option.map_some]

theorem value?_items {js : List Json} (hspace : skipSpace cs = cs)
    (hopen : ∀ rest, cs ≠ ']' :: rest) (h : items? fuel cs = some (js, rest)) :
    value? (fuel + 1) ('[' :: cs) = some (arr js, rest) := by
  simp only [value?, hspace, h, Option.map_some]

theorem value?_fields {fields : List (String × Json)} (hspace : skipSpace cs = cs)
    (hopen : ∀ rest, cs ≠ '}' :: rest) (h : fields? fuel [] cs = some (fields, rest)) :
    value? (fuel + 1) ('{' :: cs) = some (obj fields, rest) := by
  simp only [value?, hspace, h, Option.map_some]

theorem items?_last {j : Json} (h : value? fuel cs = some (j, ']' :: rest)) :
    items? (fuel + 1) cs = some ([j], rest) := by
  have hbracket : skipSpace (']' :: rest) = ']' :: rest := skipSpace_cons (by decide) rest
  simp only [items?, h, Option.bind_eq_bind, Option.bind_some, hbracket]

theorem items?_more {j : Json} {js : List Json} {more : List Char}
    (h : value? fuel cs = some (j, ',' :: more)) (hspace : skipSpace more = more)
    (hmore : items? fuel more = some (js, rest)) :
    items? (fuel + 1) cs = some (j :: js, rest) := by
  have hcomma : skipSpace (',' :: more) = ',' :: more := skipSpace_cons (by decide) more
  simp only [items?, h, Option.bind_eq_bind, Option.bind_some, hcomma, hspace, hmore]

theorem fields?_last {seen : List (String × Json)} (key : String) {j : Json}
    (hspace : skipSpace cs = cs) (h : value? fuel cs = some (j, '}' :: rest)) :
    fields? (fuel + 1) seen (stringText key ++ ':' :: cs) = some (setField key j seen, rest) := by
  have hcolon : skipSpace (':' :: cs) = ':' :: cs := skipSpace_cons (by decide) cs
  have hbrace : skipSpace ('}' :: rest) = '}' :: rest := skipSpace_cons (by decide) rest
  simp only [fields?, string?_stringText, Option.bind_eq_bind, Option.bind_some, hcolon, hspace, h,
    hbrace]

theorem fields?_more {seen fields : List (String × Json)} (key : String) {j : Json}
    {more : List Char} (hspace : skipSpace cs = cs) (h : value? fuel cs = some (j, ',' :: more))
    (hmoreSpace : skipSpace more = more)
    (hmore : fields? fuel (setField key j seen) more = some (fields, rest)) :
    fields? (fuel + 1) seen (stringText key ++ ':' :: cs) = some (fields, rest) := by
  have hcolon : skipSpace (':' :: cs) = ':' :: cs := skipSpace_cons (by decide) cs
  have hcomma : skipSpace (',' :: more) = ',' :: more := skipSpace_cons (by decide) more
  simp only [fields?, string?_stringText, Option.bind_eq_bind, Option.bind_some, hcolon, hspace, h,
    hcomma, hmoreSpace, hmore]

end Rules

/-- The fields are all new to those already read. -/
def Adds (seen fields : List (String × Json)) : Prop :=
  (seen.map Prod.fst ++ fields.map Prod.fst).Nodup

theorem Adds.setField {seen fields : List (String × Json)} {key : String} {j : Json}
    (h : Adds seen ((key, j) :: fields)) (k : Json) :
    setField key k seen = seen ++ [(key, k)] ∧ Adds (seen ++ [(key, k)]) fields := by
  have hnew : key ∉ seen.map Prod.fst := by
    intro hmem
    exact (List.nodup_append.mp h).2.2 key hmem key List.mem_cons_self rfl
  refine ⟨setField_of_not_mem hnew, ?_⟩
  simpa [Adds] using h

mutual

/-- A value is read back from its text, whatever follows, with its floats read back from theirs.
The reader goes two levels down for a value in brackets, which take up two characters. -/
theorem value?_write : (j : Json) → (rest : List Char) → (fuel : Nat) → j.KeysDiffer →
    Closes rest → 2 * (j.write []).length ≤ fuel →
    value? fuel (j.write rest) = some (j.mapFloats reread, rest)
  | j, rest, 0, _, _, hfuel => by
    have := j.length_write_pos
    omega
  | null, _, fuel + 1, _, hrest, _ => value?_word rfl hrest fuel
  | bool true, _, fuel + 1, _, hrest, _ => value?_word rfl hrest fuel
  | bool false, _, fuel + 1, _, hrest, _ => value?_word rfl hrest fuel
  | int _, _, fuel + 1, _, hrest, _ => value?_word rfl hrest fuel
  | float _, _, fuel + 1, _, hrest, _ => value?_word rfl hrest fuel
  | str s, _, _ + 1, _, _, _ => value?_string s
  | arr [], _, _ + 1, _, _, _ => rfl
  | obj [], _, _ + 1, _, _, _ => rfl
  | arr (j :: js), rest, fuel + 1, hkeys, _, hfuel => by
    have hlength : 2 * ((writeItems (j :: js) [']']).length + 1) ≤ fuel + 1 := hfuel
    rw [length_writeItems] at hlength
    exact value?_items (skipSpace_writeItems j js _) (fun _ => writeItems_ne)
      (items?_write (j :: js) rest fuel (by simp) hkeys (by omega))
  | obj ((key, j) :: fields), rest, fuel + 1, hkeys, _, hfuel => by
    have hlength : 2 * ((writeFields ((key, j) :: fields) ['}']).length + 1) ≤ fuel + 1 := hfuel
    rw [length_writeFields] at hlength
    exact value?_fields (skipSpace_writeFields key j fields _) (fun _ => writeFields_ne)
      (fields?_write ((key, j) :: fields) rest fuel [] (by simp) hkeys.1 hkeys.2 (by omega))

theorem items?_write : (js : List Json) → (rest : List Char) → (fuel : Nat) → js ≠ [] →
    KeysDifferInItems js → 2 * (writeItems js []).length < fuel →
    items? fuel (writeItems js (']' :: rest)) = some (mapFloatsOfItems reread js, rest)
  | [], _, _, hne, _, _ => absurd rfl hne
  | _, _, 0, _, _, hfuel => by omega
  | [j], rest, fuel + 1, _, hkeys, hfuel => by
    have hlength : 2 * (j.write []).length < fuel + 1 := hfuel
    exact items?_last (value?_write j _ fuel hkeys.1 (closes_bracket rest) (by omega))
  | j :: k :: js, rest, fuel + 1, _, hkeys, hfuel => by
    have hlength : 2 * ((j.write []).length + ((writeItems (k :: js) []).length + 1)) <
        fuel + 1 := by
      rwa [writeItems, length_write] at hfuel
    exact items?_more (value?_write j _ fuel hkeys.1 (closes_comma _) (by omega))
      (skipSpace_writeItems k js _) (items?_write (k :: js) rest fuel (by simp) hkeys.2 (by omega))

theorem fields?_write : (fields : List (String × Json)) → (rest : List Char) → (fuel : Nat) →
    (seen : List (String × Json)) → fields ≠ [] → Adds seen fields → KeysDifferInFields fields →
    2 * (writeFields fields []).length < fuel →
    fields? fuel seen (writeFields fields ('}' :: rest)) =
      some (seen ++ mapFloatsOfFields reread fields, rest)
  | [], _, _, _, hne, _, _, _ => absurd rfl hne
  | _, _, 0, _, _, _, _, hfuel => by omega
  | [(key, j)], rest, fuel + 1, seen, _, hadds, hkeys, hfuel => by
    have hlength : 2 * ((stringText key).length + ((j.write []).length + 1)) < fuel + 1 := by
      rwa [writeFields, List.length_append, List.length_cons] at hfuel
    have hvalue := value?_write j _ fuel hkeys.1 (closes_brace rest) (by omega)
    rw [writeFields, fields?_last key (skipSpace_write j _) hvalue, (hadds.setField _).1]
    rfl
  | (key, j) :: (name, k) :: fields, rest, fuel + 1, seen, _, hadds, hkeys, hfuel => by
    have hlength : 2 * ((stringText key).length + ((j.write []).length +
        ((writeFields ((name, k) :: fields) []).length + 1) + 1)) < fuel + 1 := by
      rwa [writeFields, List.length_append, List.length_cons, length_write] at hfuel
    obtain ⟨hset, hmore⟩ := hadds.setField (j.mapFloats reread)
    have hvalue := value?_write j (',' :: writeFields ((name, k) :: fields) ('}' :: rest)) fuel
      hkeys.1 (closes_comma _) (by omega)
    have hfields := fields?_write ((name, k) :: fields) rest fuel
      (seen ++ [(key, j.mapFloats reread)]) (by simp) hmore hkeys.2 (by omega)
    rw [writeFields]
    refine fields?_more key (skipSpace_write j _) hvalue (skipSpace_writeFields name k fields _) ?_
    rw [hset, hfields, List.append_assoc, List.singleton_append]
    rfl

end

/-- A document is read back from its text, with its floats read back from theirs. -/
theorem parse?_compact {j : Json} (h : j.KeysDiffer) :
    parse? j.compact = some (j.mapFloats reread) := by
  have hnil : Closes [] := fun _ hc => by cases hc
  have hvalue := value?_write j [] (2 * (j.write []).length + 2) h hnil (by omega)
  simp only [parse?, compact, String.toList_ofList, skipSpace_write, hvalue, Option.bind_eq_bind,
    Option.bind_some]
  rfl

/-! ## Characters of the text -/

def IsAscii (cs : List Char) : Prop :=
  ∀ c ∈ cs, c.toNat < 0x80

theorem IsAscii.append {cs ds : List Char} (hcs : IsAscii cs) (hds : IsAscii ds) :
    IsAscii (cs ++ ds) :=
  fun c hc => (List.mem_append.mp hc).elim (hcs c) (hds c)

theorem IsAscii.cons {c : Char} {cs : List Char} (hc : c.toNat < 0x80) (hcs : IsAscii cs) :
    IsAscii (c :: cs) :=
  List.forall_mem_cons.mpr ⟨hc, hcs⟩

theorem isAscii_nil : IsAscii [] :=
  fun _ h => by cases h

theorem isAscii_unitEscape (unit : Nat) : IsAscii (unitEscape unit) := by
  have hdigit : ∀ n, n < 16 → (Nat.digitChar n).toNat < 0x80 := by decide
  have hdigits : ∀ width n, IsAscii (Text.hexDigits width n) := by
    intro width
    induction width with
    | zero => exact fun _ => isAscii_nil
    | succ width ih =>
      intro n
      exact (ih (n / 16)).append (.cons (hdigit _ (Nat.mod_lt n (by decide))) isAscii_nil)
  exact .cons (by decide) (.cons (by decide) (hdigits 4 unit))

/-- A character of a string is written as a short escape, as itself, or as one or two units. -/
theorem stringChar_cases (c : Char) :
    (∃ d ∈ ['"', '\\', 'n', 'r', 't', 'b', 'f'], stringChar c = ['\\', d]) ∨
      (stringChar c = [c] ∧ 0x20 ≤ c.toNat ∧ c.toNat < 0x7F ∧ c ≠ '"' ∧ c ≠ '\\') ∨
      (∃ unit, stringChar c = unitEscape unit) ∨
      ∃ high low, stringChar c = unitEscape high ++ unitEscape low := by
  generalize hwritten : stringChar c = cs
  unfold stringChar at hwritten
  split at hwritten
  · exact .inl ⟨'"', by decide, hwritten.symm⟩
  split at hwritten
  · exact .inl ⟨'\\', by decide, hwritten.symm⟩
  split at hwritten
  · exact .inl ⟨'n', by decide, hwritten.symm⟩
  split at hwritten
  · exact .inl ⟨'r', by decide, hwritten.symm⟩
  split at hwritten
  · exact .inl ⟨'t', by decide, hwritten.symm⟩
  split at hwritten
  · exact .inl ⟨'b', by decide, hwritten.symm⟩
  split at hwritten
  · exact .inl ⟨'f', by decide, hwritten.symm⟩
  split at hwritten
  · next hquote hbackslash _ _ _ _ _ hprintable =>
    exact .inr (.inl ⟨hwritten.symm, hprintable.1, hprintable.2, hquote, hbackslash⟩)
  split at hwritten
  · exact .inr (.inr (.inl ⟨_, hwritten.symm⟩))
  · exact .inr (.inr (.inr ⟨_, _, hwritten.symm⟩))

theorem isAscii_stringChar (c : Char) : IsAscii (stringChar c) := by
  have hshort : ∀ d ∈ ['"', '\\', 'n', 'r', 't', 'b', 'f'], d.toNat < 0x80 :=
    forall_mem_of_all (by decide)
  rcases stringChar_cases c with ⟨d, hd, h⟩ | ⟨h, _, hbound, _⟩ | ⟨unit, h⟩ | ⟨high, low, h⟩ <;>
    rw [h]
  · exact .cons (by decide) (.cons (hshort d hd) isAscii_nil)
  · exact .cons (by omega) isAscii_nil
  · exact isAscii_unitEscape unit
  · exact (isAscii_unitEscape high).append (isAscii_unitEscape low)

theorem isAscii_stringText (s : String) : IsAscii (stringText s) := by
  refine .cons (by decide) (.append ?_ (.cons (by decide) isAscii_nil))
  intro c hc
  obtain ⟨d, _, hd⟩ := List.mem_flatMap.mp hc
  exact isAscii_stringChar d c hd

theorem isAscii_wordText? {j : Json} {word : List Char} (h : j.wordText? = some word) :
    IsAscii word := by
  have hsigns : ∀ c ∈ wordSigns, c.toNat < 0x80 := forall_mem_of_all (by decide)
  exact fun c hc => hsigns c (mem_wordSigns h c hc)

theorem isAscii_write_word {j : Json} {word rest : List Char} (h : j.wordText? = some word)
    (hrest : IsAscii rest) : IsAscii (j.write rest) := by
  rw [write_of_wordText? h]
  exact (isAscii_wordText? h).append hrest

mutual

/-- The text of a document is ASCII, whatever characters its strings have. -/
theorem isAscii_write : (j : Json) → {rest : List Char} → IsAscii rest → IsAscii (j.write rest)
  | null, _, hrest => isAscii_write_word rfl hrest
  | bool true, _, hrest => isAscii_write_word rfl hrest
  | bool false, _, hrest => isAscii_write_word rfl hrest
  | int _, _, hrest => isAscii_write_word rfl hrest
  | float _, _, hrest => isAscii_write_word rfl hrest
  | str s, _, hrest => (isAscii_stringText s).append hrest
  | arr items, _, hrest => .cons (by decide) (isAscii_writeItems items (.cons (by decide) hrest))
  | obj fields, _, hrest => .cons (by decide) (isAscii_writeFields fields (.cons (by decide) hrest))

theorem isAscii_writeItems : (js : List Json) → {rest : List Char} → IsAscii rest →
    IsAscii (writeItems js rest)
  | [], _, hrest => hrest
  | [j], _, hrest => isAscii_write j hrest
  | j :: k :: js, _, hrest =>
    isAscii_write j (.cons (by decide) (isAscii_writeItems (k :: js) hrest))

theorem isAscii_writeFields : (fields : List (String × Json)) → {rest : List Char} →
    IsAscii rest → IsAscii (writeFields fields rest)
  | [], _, hrest => hrest
  | [(key, j)], _, hrest =>
    (isAscii_stringText key).append (.cons (by decide) (isAscii_write j hrest))
  | (key, j) :: field :: fields, _, hrest =>
    (isAscii_stringText key).append (.cons (by decide)
      (isAscii_write j (.cons (by decide) (isAscii_writeFields (field :: fields) hrest))))

end

/-- ASCII characters are encoded as themselves. -/
theorem byte_lt_of_isAscii {cs : List Char} (h : IsAscii cs) :
    ∀ b ∈ (String.ofList cs).toUTF8.data, b < 0x80 := by
  intro b hb
  rw [String.toUTF8_eq_toByteArray, String.toByteArray_ofList, List.utf8Encode, ← Array.mem_toList_iff,
    List.toList_data_toByteArray] at hb
  obtain ⟨c, hc, hbyte⟩ := List.mem_flatMap.mp hb
  have hcode : c.val.toNat < 0x80 := h c hc
  have hencoded : String.utf8EncodeChar c = [UInt8.ofNat c.val.toNat] := by
    unfold String.utf8EncodeChar
    exact if_pos (show c.val.toNat ≤ 0x7f by omega)
  rw [hencoded, List.mem_singleton] at hbyte
  rw [hbyte, UInt8.lt_iff_toNat_lt, UInt8.toNat_ofNat']
  show c.val.toNat % 256 < 128
  omega

end Json

/-! ## Trees -/

theorem Token.keysDiffer_toJson (t : Token) : t.toJson.KeysDiffer := by
  simp [Token.toJson, Json.KeysDiffer, Json.KeysDifferInFields]

theorem keysDifferInItems_map_toJson (ts : List Token) :
    Json.KeysDifferInItems (ts.map Token.toJson) := by
  induction ts with
  | nil => trivial
  | cons t ts ih => exact ⟨t.keysDiffer_toJson, ih⟩

theorem Value.keysDiffer_toJson {v : Value} (h : v.IsWritten) : v.toJson.KeysDiffer := by
  cases v with
  | foreign d => exact h.elim
  | _ => trivial

mutual

theorem Expr.keysDiffer_toJson : (e : Expr) → e.IsScripted → e.toJson.KeysDiffer
  | .binary left operator right, h => by
    simp [Expr.toJson, Json.KeysDiffer, Json.KeysDifferInFields, operator.keysDiffer_toJson,
      left.keysDiffer_toJson h.2.2.1, right.keysDiffer_toJson h.2.2.2]
  | .unary operator operand, h => by
    simp [Expr.toJson, Json.KeysDiffer, Json.KeysDifferInFields, operator.keysDiffer_toJson,
      operand.keysDiffer_toJson h.2.2]
  | .literal value line, h => by
    simp [Expr.toJson, Json.KeysDiffer, Json.KeysDifferInFields, Value.keysDiffer_toJson h]
  | .variable name, _ => by
    simp [Expr.toJson, Json.KeysDiffer, Json.KeysDifferInFields, name.keysDiffer_toJson]
  | .grouping inner, h => by
    simp [Expr.toJson, Json.KeysDiffer, Json.KeysDifferInFields, inner.keysDiffer_toJson h]
  | .call callee arguments, h => by
    simp [Expr.toJson, Json.KeysDiffer, Json.KeysDifferInFields, callee.keysDiffer_toJson,
      keysDiffer_argumentsToJson arguments h.2.2]
  | .champion _, h => h.elim

theorem keysDiffer_argumentsToJson : (es : List Expr) → AllScripted es →
    Json.KeysDifferInItems (argumentsToJson es)
  | [], _ => trivial
  | e :: es, h => ⟨e.keysDiffer_toJson h.1, keysDiffer_argumentsToJson es h.2⟩

end

mutual

theorem Stmt.keysDiffer_toJson : (s : Stmt) → s.IsScripted → s.toJson.KeysDiffer
  | .expression value, h => by
    simp [Stmt.toJson, Json.KeysDiffer, Json.KeysDifferInFields, value.keysDiffer_toJson h]
  | .block statements, h => by
    simp [Stmt.toJson, Json.KeysDiffer, Json.KeysDifferInFields,
      keysDiffer_bodyToJson statements h]
  | .conditional condition thenBody elseBody, h => by
    simp [Stmt.toJson, Json.KeysDiffer, Json.KeysDifferInFields, condition.keysDiffer_toJson h.1,
      keysDiffer_bodyToJson thenBody h.2.1, keysDiffer_elseToJson elseBody h.2.2]
  | .loop condition body, h => by
    simp [Stmt.toJson, Json.KeysDiffer, Json.KeysDifferInFields, condition.keysDiffer_toJson h.1,
      keysDiffer_bodyToJson body h.2]
  | .combo actions, h => by
    simp [Stmt.toJson, Json.KeysDiffer, Json.KeysDifferInFields, keysDiffer_bodyToJson actions h]
  | .champion declared, h => by
    rw [Stmt.toJson]
    exact declared.keysDiffer_toJson h

theorem keysDiffer_bodyToJson : (ss : List Stmt) → BodyScripted ss →
    Json.KeysDifferInItems (bodyToJson ss)
  | [], _ => trivial
  | s :: ss, h => ⟨s.keysDiffer_toJson h.1, keysDiffer_bodyToJson ss h.2⟩

theorem keysDiffer_elseToJson : (e : Option (List Stmt)) → ElseScripted e →
    (elseToJson e).KeysDiffer
  | none, _ => trivial
  | some body, h => keysDiffer_bodyToJson body h

theorem Handler.keysDiffer_toJson : (h : Handler) → h.IsScripted → h.toJson.KeysDiffer
  | ⟨event, params, body⟩, h => by
    simp [Handler.toJson, Json.KeysDiffer, Json.KeysDifferInFields, event.keysDiffer_toJson,
      keysDifferInItems_map_toJson, keysDiffer_bodyToJson body h.2.2]

theorem keysDiffer_handlersToJson : (hs : List Handler) → HandlersScripted hs →
    Json.KeysDifferInItems (handlersToJson hs)
  | [], _ => trivial
  | g :: gs, h => ⟨g.keysDiffer_toJson h.1, keysDiffer_handlersToJson gs h.2⟩

theorem Champion.keysDiffer_toJson : (c : Champion) → c.IsScripted → c.toJson.KeysDiffer
  | ⟨name, handlers⟩, h => by
    simp [Champion.toJson, Json.KeysDiffer, Json.KeysDifferInFields, name.keysDiffer_toJson,
      keysDiffer_handlersToJson handlers h.2]

end

/-! ## Whole scripts -/

theorem bodyToJson_eq_map (ss : List Stmt) : bodyToJson ss = ss.map Stmt.toJson := by
  induction ss with
  | nil => rfl
  | cons s ss ih => rw [bodyToJson, ih, List.map_cons]

namespace Program

theorem floats_toJson {p : Program} (h : BodyScripted p) (f : String) :
    (p.toJson f).floats = p.numbers := by
  simp [toJson, Json.floats, Json.floatsOfFields, numbers, floats_bodyToJson p h]

theorem keysDiffer_toJson {p : Program} (h : BodyScripted p) (f : String) :
    (p.toJson f).KeysDiffer := by
  simp [toJson, Json.KeysDiffer, Json.KeysDifferInFields, keysDiffer_bodyToJson p h]

/-- The text of a script is read as its tree, with the numbers read back from theirs. -/
theorem parse?_serialize {p : Program} (h : BodyScripted p) (f : String) :
    Json.parse? (p.serialize f) = some ((p.toJson f).mapFloats Number.reread) :=
  Json.parse?_compact (keysDiffer_toJson h f)

end Program

/-- A script is read back from the bytes of its JSON text, which are ASCII, if its numbers are read
back from their texts. -/
theorem serialize_reads_back {file source : String} {p : Program} (f : String)
    (hp : (Script.readProgram file source).result = some p)
    (hnumbers : ∀ x ∈ p.numbers, Number.ofText? (Number.text x) = some x) :
    (String.fromUTF8? (p.serialize f).toUTF8).bind Json.parse? =
        some (.obj [("_type", .str "program"), ("filename", .str f),
          ("statements", .arr (p.map Stmt.toJson))]) ∧
      ∀ b ∈ (p.serialize f).toUTF8.data, b < 0x80 := by
  have hscripted := bodyScripted_of_readProgram hp
  have hreread : ∀ x ∈ (p.toJson f).floats, Number.reread x = x := by
    intro x hx
    rw [p.floats_toJson hscripted f] at hx
    rw [Number.reread, hnumbers x hx, Option.getD_some]
  refine ⟨?_, Json.byte_lt_of_isAscii (Json.isAscii_write _ Json.isAscii_nil)⟩
  rw [fromUTF8?_toUTF8, Option.bind_some, p.parse?_serialize hscripted f,
    Json.mapFloats_eq_self _ hreread, Program.toJson, bodyToJson_eq_map]

/-- A text with a backslash, a control character, a line end and a character past U+FFFF, and
numbers of each layout. -/
def beaconSource : String :=
  "ping(\"\\\x7f\n☃😀\", 0.1 + 30000000000000000000000 * 12)"

@[irreducible] def beacon : Program :=
  (Script.readProgram "" beaconSource).result.getD []

theorem serialize_reads_back_escapes :
    (∀ x ∈ beacon.numbers, Number.ofText? (Number.text x) = some x) ∧
      (String.fromUTF8? (beacon.serialize "a\"b\t").toUTF8).bind Json.parse? =
        some (.obj [("_type", .str "program"), ("filename", .str "a\"b\t"),
          ("statements", .arr (beacon.map Stmt.toJson))]) := by
  have hread : (Script.readProgram "" beaconSource).result = some beacon := by
    unfold beacon
    exact Script.result_eq_some_getD (by decide +kernel)
  have hnumbers : ∀ x ∈ beacon.numbers, Number.ofText? (Number.text x) = some x := by
    decide +kernel
  exact ⟨hnumbers, (serialize_reads_back "a\"b\t" hread hnumbers).1⟩

end RiftScript
