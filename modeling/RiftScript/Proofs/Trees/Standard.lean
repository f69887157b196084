/-
When JSON text is standard.

The grammar of standard JSON is given here on its own, with blanks wherever it allows them. It has
no word for infinity and none for not-a-number. A document is written in standard JSON if all its
floats are finite, and only then: the words for other floats stand outside strings, where the
grammar has no place for their capital letters.

A number in a script can have so many digits that it is infinite, so there are scripts whose JSON
text is not standard.
-/
import RiftScript.Proofs.Trees.Reading

namespace RiftScript

/-- Neither infinite nor not-a-number. -/
def Number.Parts.isFinite : Number.Parts → Bool
  | .finite _ _ _ => true
  | .notANumber | .infinite _ => false

namespace Json
namespace Standard

open Number (IsDigits Numeral signed)

/-! ## Grammar -/

/-- Blanks that may stand around values and signs. -/
def IsBlank (cs : List Char) : Prop :=
  ∀ c ∈ cs, c ∈ [' ', '\t', '\n', '\r']

inductive IsWhole : List Char → Prop where
  | zero : IsWhole ['0']
  | digits {c : Char} {ds : List Char} : c ≠ '0' → IsDigits (c :: ds) → IsWhole (c :: ds)

inductive IsFraction : List Char → Prop where
  | absent : IsFraction []
  | point {ds : List Char} : IsDigits ds → IsFraction ('.' :: ds)

inductive IsExponent : List Char → Prop where
  | absent : IsExponent []
  | mark {mark : Char} {sign ds : List Char} : mark ∈ ['e', 'E'] →
      sign ∈ [[], ['+'], ['-']] → IsDigits ds → IsExponent (mark :: (sign ++ ds))

inductive IsNumber : List Char → Prop where
  | parts {sign whole fraction exponent : List Char} : sign ∈ [[], ['-']] → IsWhole whole →
      IsFraction fraction → IsExponent exponent →
      IsNumber (sign ++ (whole ++ (fraction ++ exponent)))

def hexSigns : List Char :=
  ['0', '1', '2', '3', '4', '5', '6', '7', '8', '9', 'a', 'b', 'c', 'd', 'e', 'f', 'A', 'B', 'C',
    'D', 'E', 'F']

/-- One character of a string: itself, or an escape. -/
inductive IsStringChar : List Char → Prop where
  | plain {c : Char} : 0x20 ≤ c.toNat → c ≠ '"' → c ≠ '\\' → IsStringChar [c]
  | short {c : Char} : c ∈ ['"', '\\', '/', 'b', 'f', 'n', 'r', 't'] → IsStringChar ['\\', c]
  | unit {ds : List Char} : ds.length = 4 → (∀ d ∈ ds, d ∈ hexSigns) →
      IsStringChar ('\\' :: 'u' :: ds)

inductive IsStringBody : List Char → Prop where
  | nil : IsStringBody []
  | cons {cs rest : List Char} : IsStringChar cs → IsStringBody rest → IsStringBody (cs ++ rest)

inductive IsString : List Char → Prop where
  | quoted {body : List Char} : IsStringBody body → IsString ('"' :: (body ++ ['"']))

mutual

inductive IsValue : List Char → Prop where
  | null : IsValue ['n', 'u', 'l', 'l']
  | yes : IsValue ['t', 'r', 'u', 'e']
  | no : IsValue ['f', 'a', 'l', 's', 'e']
  | number {cs : List Char} : IsNumber cs → IsValue cs
  | string {cs : List Char} : IsString cs → IsValue cs
  | emptyArray {blank : List Char} : IsBlank blank → IsValue ('[' :: (blank ++ [']']))
  | array {items : List Char} : IsItems items → IsValue ('[' :: (items ++ [']']))
  | emptyObject {blank : List Char} : IsBlank blank → IsValue ('{' :: (blank ++ ['}']))
  | object {members : List Char} : IsMembers members → IsValue ('{' :: (members ++ ['}']))

/-- A value with blanks around it. -/
inductive IsItem : List Char → Prop where
  | padded {before value after : List Char} : IsBlank before → IsValue value → IsBlank after →
      IsItem (before ++ (value ++ after))

inductive IsItems : List Char → Prop where
  | last {item : List Char} : IsItem item → IsItems item
  | more {item items : List Char} : IsItem item → IsItems items → IsItems (item ++ ',' :: items)

inductive IsMember : List Char → Prop where
  | named {before name after item : List Char} : IsBlank before → IsString name →
      IsBlank after → IsItem item → IsMember (before ++ (name ++ (after ++ ':' :: item)))

inductive IsMembers : List Char → Prop where
  | last {member : List Char} : IsMember member → IsMembers member
  | more {member members : List Char} : IsMember member → IsMembers members →
      IsMembers (member ++ ',' :: members)

end

/-- Standard JSON text is one value with blanks around it. -/
def IsText (cs : List Char) : Prop :=
  IsItem cs

/-! ## Finite documents are standard -/

theorem isBlank_nil : IsBlank [] :=
  fun _ h => by cases h

theorem IsValue.item {cs : List Char} (h : IsValue cs) : IsItem cs := by
  simpa using IsItem.padded isBlank_nil h isBlank_nil

theorem IsString.member {name item : List Char} (hname : IsString name) (hitem : IsItem item) :
    IsMember (name ++ ':' :: item) := by
  simpa using IsMember.named isBlank_nil hname isBlank_nil hitem

theorem isNumber_numeral (negative : Bool) (n : Numeral) : IsNumber (signed negative n.text) := by
  have hwhole : IsWhole n.whole := by
    obtain ⟨c, cs, hcs, _⟩ := n.exists_whole_cons
    by_cases hzero : c = '0'
    · rw [n.leading (by simp [hcs, hzero])]
      exact .zero
    · have hdigits := n.isDigits_whole
      rw [hcs] at hdigits ⊢
      exact .digits hzero hdigits
  have hfraction : IsFraction (Numeral.fractionText n.fraction) := by
    cases hds : n.fraction with
    | none => exact .absent
    | some ds => exact .point (n.isDigits_fraction ds hds)
  have hexponent : IsExponent (Numeral.exponentText n.exponent) := by
    cases he : n.exponent with
    | none => exact .absent
    | some e =>
      have hdigits := n.isDigits_exponent e he
      have hmark : 'e' ∈ ['e', 'E'] := by decide
      have hplus : ['+'] ∈ [[], ['+'], ['-']] := by decide
      have hminus : ['-'] ∈ [[], ['+'], ['-']] := by decide
      cases hsign : e.1 with
      | false => simpa [Numeral.exponentText, hsign] using IsExponent.mark hmark hplus hdigits
      | true => simpa [Numeral.exponentText, hsign] using IsExponent.mark hmark hminus hdigits
  have hsign : signed negative [] ∈ [[], ['-']] := by cases negative <;> decide
  have htext : signed negative n.text = signed negative [] ++ n.text := by cases negative <;> rfl
  rw [htext]
  exact .parts hsign hwhole hfraction hexponent

theorem isNumber_toString (n : Int) : IsNumber (toString n).toList := by
  rw [Number.toList_toString_numeral]
  exact isNumber_numeral _ _

theorem isNumber_floatText {x : Float} (h : (Number.parts x).isFinite = true) :
    IsNumber (floatText x) := by
  cases hparts : Number.parts x with
  | notANumber => simp [hparts, Number.Parts.isFinite] at h
  | infinite negative => simp [hparts, Number.Parts.isFinite] at h
  | finite negative mantissa exponent =>
    obtain ⟨n, _, hn⟩ := Number.exists_numeral_text hparts
    rw [floatText_of_finite hparts, hn]
    exact isNumber_numeral negative n

theorem mem_hexSigns {n : Nat} (h : n < 16) : Nat.digitChar n ∈ hexSigns := by
  have hall : ∀ n, n < 16 → Nat.digitChar n ∈ hexSigns := by decide
  exact hall n h

theorem isStringChar_unitEscape (unit : Nat) : IsStringChar (unitEscape unit) := by
  have hdigits : ∀ width n, ∀ d ∈ Text.hexDigits width n, d ∈ hexSigns := by
    intro width
    induction width with
    | zero => exact fun _ _ hd => by cases hd
    | succ width ih =>
      intro n d hd
      rcases List.mem_append.mp hd with hd | hd
      · exact ih (n / 16) d hd
      · rw [List.mem_singleton.mp hd]
        exact mem_hexSigns (Nat.mod_lt n (by decide))
  exact .unit (Text.hexDigits_length 4 unit) (hdigits 4 unit)

/-- A character takes one place in a string, and two if it is written as two units. -/
theorem isStringBody_stringChar (c : Char) {rest : List Char} (hrest : IsStringBody rest) :
    IsStringBody (stringChar c ++ rest) := by
  have hshort : ∀ d ∈ ['"', '\\', 'n', 'r', 't', 'b', 'f'],
      d ∈ ['"', '\\', '/', 'b', 'f', 'n', 'r', 't'] := forall_mem_of_all (by decide)
  rcases stringChar_cases c with ⟨d, hd, h⟩ | ⟨h, hlow, _, hquote, hbackslash⟩ | ⟨unit, h⟩ |
    ⟨high, low, h⟩ <;> rw [h]
  · exact .cons (.short (hshort d hd)) hrest
  · exact .cons (.plain hlow hquote hbackslash) hrest
  · exact .cons (isStringChar_unitEscape unit) hrest
  · rw [List.append_assoc]
    exact .cons (isStringChar_unitEscape high) (.cons (isStringChar_unitEscape low) hrest)

theorem isString_stringText (s : String) : IsString (stringText s) := by
  refine .quoted ?_
  induction s.toList with
  | nil => exact .nil
  | cons c cs ih => exact isStringBody_stringChar c ih

theorem write_eq_append (j : Json) (rest : List Char) : j.write rest = j.write [] ++ rest :=
  write_append j [] rest

mutual

/-- A document with finite floats only is written as a standard value. -/
theorem isValue_write : (j : Json) → (∀ x ∈ j.floats, (Number.parts x).isFinite = true) →
    IsValue (j.write [])
  | Json.null, _ => .null
  | .bool true, _ => .yes
  | .bool false, _ => .no
  | .int n, _ => by
    rw [write_of_wordText? rfl, List.append_nil]
    exact .number (isNumber_toString n)
  | .float x, h => by
    rw [write_of_wordText? rfl, List.append_nil]
    exact .number (isNumber_floatText (h x (List.mem_singleton_self x)))
  | .str s, _ => by
    show IsValue (stringText s ++ [])
    rw [List.append_nil]
    exact .string (isString_stringText s)
  | .arr [], _ => .emptyArray isBlank_nil
  | .arr (j :: js), h => by
    show IsValue ('[' :: writeItems (j :: js) ([] ++ [']']))
    rw [writeItems_append]
    exact .array (isItems_writeItems (j :: js) (by simp) h)
  | .obj [], _ => .emptyObject isBlank_nil
  | .obj (field :: fields), h => by
    show IsValue ('{' :: writeFields (field :: fields) ([] ++ ['}']))
    rw [writeFields_append]
    exact .object (isMembers_writeFields (field :: fields) (by simp) h)

theorem isItems_writeItems : (js : List Json) → js ≠ [] →
    (∀ x ∈ floatsOfItems js, (Number.parts x).isFinite = true) → IsItems (writeItems js [])
  | [], hne, _ => absurd rfl hne
  | [j], _, h => .last (isValue_write j fun x hx => h x (List.mem_append_left _ hx)).item
  | j :: k :: js, _, h => by
    rw [writeItems, write_eq_append]
    exact .more (isValue_write j fun x hx => h x (List.mem_append_left _ hx)).item
      (isItems_writeItems (k :: js) (by simp) fun x hx => h x (List.mem_append_right _ hx))

theorem isMembers_writeFields : (fields : List (String × Json)) → fields ≠ [] →
    (∀ x ∈ floatsOfFields fields, (Number.parts x).isFinite = true) →
    IsMembers (writeFields fields [])
  | [], hne, _ => absurd rfl hne
  | [(key, j)], _, h =>
    .last ((isString_stringText key).member
      (isValue_write j fun x hx => h x (List.mem_append_left _ hx)).item)
  | (key, j) :: field :: fields, _, h => by
    rw [writeFields, write_eq_append, ← List.cons_append, ← List.append_assoc]
    exact .more ((isString_stringText key).member
      (isValue_write j fun x hx => h x (List.mem_append_left _ hx)).item)
      (isMembers_writeFields (field :: fields) (by simp) fun x hx =>
        h x (List.mem_append_right _ hx))

end

/-! ## Outside strings -/

/-- Where a character of a text stands. -/
inductive Place where
  | outside
  | inside
  | escaped

/-- The characters of a text that stand outside strings. -/
def bare : Place → List Char → List Char
  | _, [] => []
  | .outside, c :: cs => if c = '"' then bare .inside cs else c :: bare .outside cs
  | .inside, c :: cs =>
    if c = '"' then bare .outside cs
    else if c = '\\' then bare .escaped cs
    else bare .inside cs
  | .escaped, _ :: cs => bare .inside cs

/-- A stretch of text that starts and ends outside strings, and what of it stands there. -/
def Passes (cs left : List Char) : Prop :=
  ∀ rest, bare .outside (cs ++ rest) = left ++ bare .outside rest

theorem Passes.bare_eq {cs left : List Char} (h : Passes cs left) : bare .outside cs = left := by
  simpa [bare] using h []

theorem Passes.append {cs ds left more : List Char} (hcs : Passes cs left) (hds : Passes ds more) :
    Passes (cs ++ ds) (left ++ more) := by
  intro rest
  rw [List.append_assoc, hcs, hds, List.append_assoc]

theorem passes_of_not_mem {cs : List Char} (h : '"' ∉ cs) : Passes cs cs := by
  intro rest
  induction cs with
  | nil => rfl
  | cons c cs ih =>
    rw [List.mem_cons, not_or] at h
    obtain ⟨hc, hcs⟩ := h
    rw [List.cons_append, bare, if_neg (Ne.symm hc), ih hcs, List.cons_append]

theorem bare_inside {cs : List Char} (h : ∀ c ∈ cs, c ≠ '"' ∧ c ≠ '\\') (rest : List Char) :
    bare .inside (cs ++ rest) = bare .inside rest := by
  induction cs with
  | nil => rfl
  | cons c cs ih =>
    obtain ⟨hquote, hbackslash⟩ := h c List.mem_cons_self
    rw [List.cons_append, bare, if_neg hquote, if_neg hbackslash,
      ih fun d hd => h d (List.mem_cons_of_mem _ hd)]

theorem bare_stringChar {cs : List Char} (h : IsStringChar cs) (rest : List Char) :
    bare .inside (cs ++ rest) = bare .inside rest := by
  cases h with
  | plain hlow hquote hbackslash => simp [bare, hquote, hbackslash]
  | short hc => simp [bare]
  | unit _ hdigits =>
    have hsigns : ∀ d ∈ hexSigns, d ≠ '"' ∧ d ≠ '\\' := forall_mem_of_all (by decide)
    simp [bare, bare_inside fun d hd => hsigns d (hdigits d hd)]

theorem bare_stringBody {body : List Char} (h : IsStringBody body) (rest : List Char) :
    bare .inside (body ++ '"' :: rest) = bare .outside rest := by
  induction h with
  | nil => simp [bare]
  | cons hc _ ih => rw [List.append_assoc, bare_stringChar hc, ih]

theorem passes_string {cs : List Char} (h : IsString cs) : Passes cs [] := by
  cases h with
  | quoted hbody =>
    intro rest
    simp [bare, bare_stringBody hbody]

/-- The signs that standard JSON has outside strings. -/
def signs : List Char :=
  [' ', '\t', '\n', '\r', '[', ']', '{', '}', ',', ':', '0', '1', '2', '3', '4', '5', '6', '7', '8',
    '9', '+', '-', '.', 'e', 'E', 'n', 'u', 'l', 't', 'r', 'f', 'a', 's']

/-- What stands outside strings is made of the signs of standard JSON. -/
def Conforms (cs : List Char) : Prop :=
  ∃ left, Passes cs left ∧ ∀ c ∈ left, c ∈ signs

theorem Conforms.append {cs ds : List Char} (hcs : Conforms cs) (hds : Conforms ds) :
    Conforms (cs ++ ds) := by
  obtain ⟨left, hleft, hsigns⟩ := hcs
  obtain ⟨more, hmore, hsigns'⟩ := hds
  exact ⟨left ++ more, hleft.append hmore,
    fun c hc => (List.mem_append.mp hc).elim (hsigns c) (hsigns' c)⟩

theorem conforms_of_signs {cs : List Char} (h : ∀ c ∈ cs, c ∈ signs) : Conforms cs := by
  have hquote : '"' ∉ signs := by decide
  exact ⟨cs, passes_of_not_mem fun hmem => hquote (h _ hmem), h⟩

theorem conforms_nil : Conforms [] :=
  conforms_of_signs fun _ h => by cases h

theorem Conforms.cons {c : Char} {cs : List Char} (hc : c ∈ signs) (hcs : Conforms cs) :
    Conforms (c :: cs) := by
  have hfirst : Conforms [c] := conforms_of_signs (by simpa using hc)
  exact hfirst.append hcs

theorem conforms_sign {c : Char} (hc : c ∈ signs) : Conforms [c] :=
  .cons hc conforms_nil

theorem conforms_string {cs : List Char} (h : IsString cs) : Conforms cs :=
  ⟨[], passes_string h, fun _ hc => by cases hc⟩

theorem conforms_blank {cs : List Char} (h : IsBlank cs) : Conforms cs := by
  have hsub : ∀ c ∈ [' ', '\t', '\n', '\r'], c ∈ signs := forall_mem_of_all (by decide)
  exact conforms_of_signs fun c hc => hsub c (h c hc)

theorem conforms_digits {ds : List Char} (h : IsDigits ds) : Conforms ds :=
  conforms_of_signs fun c hc =>
    Number.forall_isAsciiDigit (p := fun c => c ∈ signs) (by decide) (h.digits c hc)

theorem IsNumber.conforms {cs : List Char} (h : IsNumber cs) : Conforms cs := by
  obtain ⟨hsign, hwhole, hfraction, hexponent⟩ := h
  have hsigns : ∀ sign ∈ [[], ['+'], ['-']], ∀ c ∈ sign, c ∈ signs := by simp [signs]
  have hminus : [[], ['-']] ⊆ [[], ['+'], ['-']] := by decide
  refine .append (conforms_of_signs (hsigns _ (hminus hsign))) (.append ?_ (.append ?_ ?_))
  · cases hwhole with
    | zero => exact conforms_sign (by decide)
    | digits _ hds => exact conforms_digits hds
  · cases hfraction with
    | absent => exact conforms_nil
    | point hds => exact .cons (by decide) (conforms_digits hds)
  · cases hexponent with
    | absent => exact conforms_nil
    | mark hmark hsign hds =>
      have hmarks : ∀ c ∈ ['e', 'E'], c ∈ signs := forall_mem_of_all (by decide)
      exact .cons (hmarks _ hmark)
        (.append (conforms_of_signs (hsigns _ hsign)) (conforms_digits hds))

mutual

theorem IsValue.conforms {cs : List Char} : IsValue cs → Conforms cs
  | .null => conforms_of_signs (forall_mem_of_all (by decide))
  | .yes => conforms_of_signs (forall_mem_of_all (by decide))
  | .no => conforms_of_signs (forall_mem_of_all (by decide))
  | .number h => h.conforms
  | .string h => conforms_string h
  | .emptyArray h => .cons (by decide) ((conforms_blank h).append (conforms_sign (by decide)))
  | .array h => .cons (by decide) (h.conforms.append (conforms_sign (by decide)))
  | .emptyObject h => .cons (by decide) ((conforms_blank h).append (conforms_sign (by decide)))
  | .object h => .cons (by decide) (h.conforms.append (conforms_sign (by decide)))

theorem IsItem.conforms {cs : List Char} : IsItem cs → Conforms cs
  | .padded hbefore h hafter =>
    (conforms_blank hbefore).append (h.conforms.append (conforms_blank hafter))

theorem IsItems.conforms {cs : List Char} : IsItems cs → Conforms cs
  | .last h => h.conforms
  | .more h hmore => h.conforms.append (.cons (by decide) hmore.conforms)

theorem IsMember.conforms {cs : List Char} : IsMember cs → Conforms cs
  | .named hbefore hname hafter h =>
    (conforms_blank hbefore).append ((conforms_string hname).append
      ((conforms_blank hafter).append (.cons (by decide) h.conforms)))

theorem IsMembers.conforms {cs : List Char} : IsMembers cs → Conforms cs
  | .last h => h.conforms
  | .more h hmore => h.conforms.append (.cons (by decide) hmore.conforms)

end

/-! ## Only finite documents are standard -/

/-- The text passes, and the texts of these floats stand outside its strings. -/
def Shows (cs : List Char) (xs : List Float) : Prop :=
  ∃ left, Passes cs left ∧ ∀ x ∈ xs, floatText x ⊆ left

theorem Shows.append {cs ds : List Char} {xs ys : List Float} (hcs : Shows cs xs)
    (hds : Shows ds ys) : Shows (cs ++ ds) (xs ++ ys) := by
  obtain ⟨left, hleft, hxs⟩ := hcs
  obtain ⟨more, hmore, hys⟩ := hds
  refine ⟨left ++ more, hleft.append hmore, fun x hx => ?_⟩
  rcases List.mem_append.mp hx with hx | hx
  · exact List.subset_append_of_subset_left _ (hxs x hx)
  · exact List.subset_append_of_subset_right _ (hys x hx)

theorem shows_nil : Shows [] [] :=
  ⟨[], fun _ => rfl, fun _ hx => by cases hx⟩

theorem shows_sign {c : Char} (hc : c ≠ '"') : Shows [c] [] :=
  ⟨[c], passes_of_not_mem (by simpa using Ne.symm hc), fun _ hx => by cases hx⟩

theorem shows_string (s : String) : Shows (stringText s) [] :=
  ⟨[], passes_string (isString_stringText s), fun _ hx => by cases hx⟩

theorem shows_word {j : Json} {word : List Char} (h : j.wordText? = some word) :
    Shows (j.write []) j.floats := by
  rw [write_of_wordText? h, List.append_nil]
  refine ⟨word, passes_of_not_mem fun hmem => (wordText?_plain h).2 _ hmem (by decide), ?_⟩
  intro x hx
  cases j with
  | float y =>
    cases h
    rw [List.mem_singleton.mp hx]
    exact List.Subset.refl _
  | arr _ | obj _ => cases h
  | _ => cases hx

mutual

theorem shows_write : (j : Json) → Shows (j.write []) j.floats
  | Json.null => shows_word rfl
  | .bool true => shows_word rfl
  | .bool false => shows_word rfl
  | .int _ => shows_word rfl
  | .float _ => shows_word rfl
  | .str s => by
    show Shows (stringText s ++ []) []
    rw [List.append_nil]
    exact shows_string s
  | .arr items => by
    show Shows ('[' :: writeItems items ([] ++ [']'])) (floatsOfItems items)
    rw [writeItems_append]
    simpa using (shows_sign (c := '[') (by decide)).append ((shows_writeItems items).append
      (shows_sign (c := ']') (by decide)))
  | .obj fields => by
    show Shows ('{' :: writeFields fields ([] ++ ['}'])) (floatsOfFields fields)
    rw [writeFields_append]
    simpa using (shows_sign (c := '{') (by decide)).append ((shows_writeFields fields).append
      (shows_sign (c := '}') (by decide)))

theorem shows_writeItems : (js : List Json) → Shows (writeItems js []) (floatsOfItems js)
  | [] => shows_nil
  | [j] => by simpa [writeItems, floatsOfItems] using shows_write j
  | j :: k :: js => by
    rw [writeItems, write_eq_append]
    exact (shows_write j).append ((shows_sign (c := ',') (by decide)).append
      (shows_writeItems (k :: js)))

theorem shows_writeFields : (fields : List (String × Json)) →
    Shows (writeFields fields []) (floatsOfFields fields)
  | [] => shows_nil
  | [(key, j)] => by
    rw [writeFields, floatsOfFields, floatsOfFields, List.append_nil]
    exact (shows_string key).append ((shows_sign (c := ':') (by decide)).append (shows_write j))
  | (key, j) :: field :: fields => by
    rw [writeFields, write_eq_append]
    exact (shows_string key).append ((shows_sign (c := ':') (by decide)).append
      ((shows_write j).append ((shows_sign (c := ',') (by decide)).append
        (shows_writeFields (field :: fields)))))

end

/-- The word for a float that is not finite has a capital letter. -/
theorem exists_not_mem_signs {x : Float} (h : (Number.parts x).isFinite = false) :
    ∃ c ∈ floatText x, c ∉ signs := by
  cases hparts : Number.parts x with
  | notANumber =>
    have hword : floatText x = "NaN".toList := by rw [floatText, hparts]
    exact ⟨'N', hword ▸ by decide, by decide⟩
  | infinite negative =>
    have hword : floatText x = signed negative "Infinity".toList := by rw [floatText, hparts]
    exact ⟨'I', hword ▸ by cases negative <;> decide, by decide⟩
  | finite negative mantissa exponent => simp [hparts, Number.Parts.isFinite] at h

/-- The text of a document is standard if and only if its floats are finite. -/
theorem isText_compact_iff (j : Json) :
    IsText j.compact.toList ↔ ∀ x ∈ j.floats, (Number.parts x).isFinite = true := by
  rw [compact, String.toList_ofList]
  constructor
  · intro htext x hx
    obtain ⟨left, hleft, hsigns⟩ := IsItem.conforms htext
    obtain ⟨shown, hshown, hfloats⟩ := shows_write j
    have hsame : left = shown := hleft.bare_eq.symm.trans hshown.bare_eq
    cases hfinite : (Number.parts x).isFinite with
    | true => rfl
    | false =>
      obtain ⟨c, hc, hno⟩ := exists_not_mem_signs hfinite
      exact absurd (hsigns c (hsame ▸ hfloats x hx hc)) hno
  · intro hfinite
    exact (isValue_write j hfinite).item

end Standard
end Json

/-! ## Whole scripts -/

theorem Program.isText_serialize_iff {p : Program} (h : BodyScripted p) (f : String) :
    Json.Standard.IsText (p.serialize f).toList ↔
      ∀ x ∈ p.numbers, (Number.parts x).isFinite = true := by
  rw [← p.floats_toJson h f]
  exact Json.Standard.isText_compact_iff (p.toJson f)

/-- The JSON text of a script is standard if and only if no number of the script is too large for a
finite float. -/
theorem serialize_standard_iff {file source : String} {p : Program} (f : String)
    (hp : (Script.readProgram file source).result = some p) :
    Json.Standard.IsText (p.serialize f).toList ↔
      ∀ x ∈ p.numbers, (Number.parts x).isFinite = true :=
  p.isText_serialize_iff (bodyScripted_of_readProgram hp) f

theorem serialize_standard_iff_finite_numbers :
    (∀ x ∈ beacon.numbers, (Number.parts x).isFinite = true) ∧
      Json.Standard.IsText (beacon.serialize "a\"b\t").toList := by
  have hread : (Script.readProgram "" beaconSource).result = some beacon := by
    unfold beacon
    exact Script.result_eq_some_getD (by decide +kernel)
  have hfinite : ∀ x ∈ beacon.numbers, (Number.parts x).isFinite = true := by decide +kernel
  exact ⟨hfinite, (serialize_standard_iff "a\"b\t" hread).mpr hfinite⟩

/-- A one and 309 zeros: the least power of ten past the largest float. -/
def hugeDigits : List Char :=
  '1' :: List.replicate 309 '0'

@[irreducible] def huge : Program :=
  (Script.parseWith parseProgram "" ((findings .start (Piece.all hugeDigits)).filterMap
    Finding.token?)).result.getD []

theorem serialize_huge_not_standard :
    (Script.readProgram "" (String.ofList hugeDigits)).result = some huge ∧
      ¬ Json.Standard.IsText (huge.serialize "huge.lsl").toList := by
  have hfacts : (Script.parseWith parseProgram "" ((findings .start (Piece.all hugeDigits)).filterMap
      Finding.token?)).result.isSome = true ∧
      ∃ x ∈ huge.numbers, (Number.parts x).isFinite = false := by
    unfold huge
    decide +kernel
  obtain ⟨hsome, x, hx, hinfinite⟩ := hfacts
  have hread : (Script.readProgram "" (String.ofList hugeDigits)).result = some huge := by
    rw [Script.readProgram, Script.readWith, Reading.following, scan, scanAll, String.toList_ofList]
    unfold huge
    obtain ⟨p, hp⟩ := Option.isSome_iff_exists.mp hsome
    rw [hp, Option.getD_some]
  refine ⟨hread, fun htext => ?_⟩
  have hfinite := (huge.isText_serialize_iff (bodyScripted_of_readProgram hread) _).mp htext x hx
  rw [hinfinite] at hfinite
  cases hfinite

end RiftScript
