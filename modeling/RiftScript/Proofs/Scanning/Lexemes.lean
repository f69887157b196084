/-
The texts of tokens.

`Lexeme kind chars` says which texts are tokens of which kind, one rule for each way of spelling,
and nothing about how far a token reaches in a longer text. Every token that scanning finds is
spelled by one of the rules, and a text that is spelled by one of them is found again as a whole
when nothing or a blank follows it. So what a token says depends on its text alone: two tokens with
the same text are of the same kind and stand for the same value, whatever scripts they are from.
-/
import RiftScript.Proofs.Parsing.Layout
import RiftScript.Proofs.Running.Mentions

namespace RiftScript

namespace Text

theorem isAsciiDigit_iff {c : Char} : isAsciiDigit c = true ↔ 48 ≤ c.toNat ∧ c.toNat ≤ 57 := by
  simp only [isAsciiDigit, Bool.and_eq_true, decide_eq_true_eq, Char.le_def,
    UInt32.le_iff_toNat_le]
  rfl

theorem isAsciiLetter_iff {c : Char} :
    isAsciiLetter c = true ↔ 97 ≤ c.toNat ∧ c.toNat ≤ 122 ∨ 65 ≤ c.toNat ∧ c.toNat ≤ 90 := by
  simp only [isAsciiLetter, Bool.or_eq_true, Bool.and_eq_true, decide_eq_true_eq, Char.le_def,
    UInt32.le_iff_toNat_le]
  rfl

/-- No name opens with a digit. -/
theorem isAsciiDigit_of_opensName {c : Char} (h : opensName c = true) : isAsciiDigit c = false := by
  rw [← Bool.not_eq_true, isAsciiDigit_iff]
  rintro ⟨hlow, hhigh⟩
  rw [opensName, isLetter, if_pos (by omega), Bool.or_eq_true, beq_iff_eq, isAsciiLetter_iff] at h
  rcases h with rfl | h
  · exact absurd hhigh (by decide)
  · omega

end Text

/-- How tokens are spelled. -/
inductive Lexeme : TokenKind → List Char → Prop where
  | text {cs : List Char} (hquote : '"' ∉ cs) : Lexeme .string ('"' :: cs ++ ['"'])
  | whole {ds : List Char} (hne : ds ≠ []) (hds : ∀ d ∈ ds, Text.isAsciiDigit d = true) :
      Lexeme .number ds
  | decimal {ds es : List Char} (hne : ds ≠ []) (hds : ∀ d ∈ ds, Text.isAsciiDigit d = true)
      (hne' : es ≠ []) (hes : ∀ e ∈ es, Text.isAsciiDigit e = true) :
      Lexeme .number (ds ++ '.' :: es)
  | word {c : Char} {cs : List Char} {kind : TokenKind} (hc : Text.opensName c = true)
      (hcs : ∀ d ∈ cs, Text.extendsName d = true)
      (hkind : TokenKind.ofWord (String.ofList (c :: cs)) = kind) : Lexeme kind (c :: cs)
  | mark {c : Char} {kind : TokenKind} (h : Piece.punctuation c = some kind) : Lexeme kind [c]
  | alone {c : Char} {kind withEqual : TokenKind}
      (h : Piece.extensible c = some (kind, withEqual)) : Lexeme kind [c]
  | extended {c : Char} {alone kind : TokenKind} (h : Piece.extensible c = some (alone, kind)) :
      Lexeme kind [c, '=']

namespace Piece

/-! ## Scanned tokens are spelled by a rule -/

theorem lexeme_numberChars {c : Char} (cs : List Char) (hc : Text.isAsciiDigit c = true) :
    Lexeme .number (numberChars (c :: cs)) := by
  have hne : (c :: cs).takeWhile Text.isAsciiDigit ≠ [] := by
    rw [List.takeWhile_cons_of_pos hc]
    exact List.cons_ne_nil _ _
  have hdigits : ∀ l : List Char, ∀ d ∈ l.takeWhile Text.isAsciiDigit, Text.isAsciiDigit d = true :=
    fun l => List.all_eq_true.mp List.all_takeWhile
  unfold numberChars
  dsimp only
  split
  · split
    · exact .whole hne (hdigits _)
    · next hfraction =>
      exact .decimal hne (hdigits _) (by simpa using hfraction) (hdigits _)
  · exact .whole hne (hdigits _)

theorem lexeme_of_operator {c : Char} {cs chars : List Char} {kind : TokenKind}
    (h : operator c cs = token kind chars) : Lexeme kind chars := by
  unfold operator at h
  split at h
  · next hext =>
    split at h <;> cases h
    · exact .extended hext
    · exact .alone hext
  · split at h <;> cases h
    next hmark => exact .mark hmark

theorem lexeme_of_cut {c : Char} {cs chars : List Char} {kind : TokenKind}
    (h : cut c cs = token kind chars) : Lexeme kind chars := by
  unfold cut at h
  split at h
  · cases h
  split at h
  · cases h
  split at h
  · split at h <;> cases h
  split at h
  · next hquote =>
    split at h <;> cases h
    subst hquote
    exact .text (not_mem_takeWhile_bne cs)
  split at h
  · next hdigit =>
    cases h
    exact lexeme_numberChars cs hdigit
  split at h
  · next hname =>
    cases h
    exact .word hname (List.all_eq_true.mp List.all_takeWhile) rfl
  · exact lexeme_of_operator h

/-! ## A text that is spelled by a rule is one token -/

/-- Nothing follows, or a blank does. -/
def Stops (rest : List Char) : Prop :=
  ∀ c ∈ rest.head?, isGap c = true

theorem stops_nil : Stops [] :=
  fun _ h => by cases h

theorem not_mem_head?_of_stops {c : Char} {rest : List Char} (hrest : Stops rest)
    (hc : isGap c = false) : rest.head? ≠ some c := by
  intro hhead
  rw [hrest c hhead] at hc
  cases hc

section Stretch

variable {p : Char → Bool} {cs rest : List Char}

theorem takeWhile_of_stops (hgap : ∀ c, isGap c = true → p c = false)
    (hcs : ∀ c ∈ cs, p c = true) (hrest : Stops rest) : (cs ++ rest).takeWhile p = cs := by
  rw [List.takeWhile_append_of_pos hcs]
  cases rest with
  | nil => exact List.append_nil cs
  | cons c rest =>
    have hc : p c = false := hgap c (hrest c rfl)
    rw [List.takeWhile_cons_of_neg (by simp [hc]), List.append_nil]

theorem dropWhile_of_stops (hgap : ∀ c, isGap c = true → p c = false)
    (hcs : ∀ c ∈ cs, p c = true) (hrest : Stops rest) : (cs ++ rest).dropWhile p = rest := by
  rw [List.dropWhile_append_of_pos hcs]
  cases rest with
  | nil => rfl
  | cons c rest =>
    have hc : p c = false := hgap c (hrest c rfl)
    rw [List.dropWhile_cons_of_neg (by simp [hc])]

end Stretch

theorem isAsciiDigit_of_isGap {c : Char} (h : isGap c = true) : Text.isAsciiDigit c = false := by
  simp only [isGap, Bool.or_eq_true, beq_iff_eq] at h
  rcases h with ((rfl | rfl) | rfl) | rfl <;> decide

theorem extendsName_of_isGap {c : Char} (h : isGap c = true) : Text.extendsName c = false := by
  simp only [isGap, Bool.or_eq_true, beq_iff_eq] at h
  rcases h with ((rfl | rfl) | rfl) | rfl <;> decide

/-- The cases that are left when the first character is no blank, no quote and no slash. -/
theorem cut_plain {c : Char} (cs : List Char) (hgap : isGap c = false) (hslash : c ≠ '/')
    (hquote : c ≠ '"') :
    cut c cs =
      if Text.isAsciiDigit c then token .number (numberChars (c :: cs))
      else if Text.opensName c then
        token (.ofWord (String.ofList (c :: cs.takeWhile Text.extendsName)))
          (c :: cs.takeWhile Text.extendsName)
      else operator c cs := by
  simp [cut, hgap, hslash, hquote]

theorem cut_text {cs : List Char} (rest : List Char) (h : '"' ∉ cs) :
    cut '"' (cs ++ '"' :: rest) = token .string ('"' :: cs ++ ['"']) := by
  have hcs : ∀ c ∈ cs, (c != '"') = true := by
    intro c hc
    rw [bne_iff_ne]
    rintro rfl
    exact h hc
  have htake : (cs ++ '"' :: rest).takeWhile (· != '"') = cs := by
    rw [List.takeWhile_append_of_pos hcs, List.takeWhile_cons_of_neg (by decide), List.append_nil]
  simp [cut, isGap, htake]

theorem numberChars_whole {ds rest : List Char} (hds : ∀ d ∈ ds, Text.isAsciiDigit d = true)
    (hrest : Stops rest) : numberChars (ds ++ rest) = ds := by
  unfold numberChars
  rw [takeWhile_of_stops (fun _ => isAsciiDigit_of_isGap) hds hrest,
    dropWhile_of_stops (fun _ => isAsciiDigit_of_isGap) hds hrest]
  split
  · next rest => exact absurd rfl (not_mem_head?_of_stops hrest (by decide))
  · rfl

theorem numberChars_decimal {ds es rest : List Char}
    (hds : ∀ d ∈ ds, Text.isAsciiDigit d = true) (hne : es ≠ [])
    (hes : ∀ e ∈ es, Text.isAsciiDigit e = true) (hrest : Stops rest) :
    numberChars (ds ++ '.' :: (es ++ rest)) = ds ++ '.' :: es := by
  have htake : (ds ++ '.' :: (es ++ rest)).takeWhile Text.isAsciiDigit = ds := by
    rw [List.takeWhile_append_of_pos hds, List.takeWhile_cons_of_neg (by decide), List.append_nil]
  have hdrop : (ds ++ '.' :: (es ++ rest)).dropWhile Text.isAsciiDigit = '.' :: (es ++ rest) := by
    rw [List.dropWhile_append_of_pos hds, List.dropWhile_cons_of_neg (by decide)]
  have hfraction := takeWhile_of_stops (fun _ => isAsciiDigit_of_isGap) hes hrest
  simp [numberChars, htake, hdrop, hfraction, hne]

theorem cut_digit {c : Char} (cs : List Char) (hc : Text.isAsciiDigit c = true) :
    cut c cs = token .number (numberChars (c :: cs)) := by
  have hgap : isGap c = false := by
    cases h : isGap c with
    | false => rfl
    | true =>
      rw [isAsciiDigit_of_isGap h] at hc
      cases hc
  have hslash : c ≠ '/' := by
    rintro rfl
    revert hc
    decide
  have hquote : c ≠ '"' := by
    rintro rfl
    revert hc
    decide
  rw [cut_plain cs hgap hslash hquote, if_pos hc]

theorem cut_name {c : Char} (cs : List Char) (hc : Text.opensName c = true) :
    cut c cs = token (.ofWord (String.ofList (c :: cs.takeWhile Text.extendsName)))
      (c :: cs.takeWhile Text.extendsName) := by
  have hgap : isGap c = false := by
    cases h : isGap c with
    | false => rfl
    | true =>
      have hextends := Text.extendsName_of_opensName hc
      rw [extendsName_of_isGap h] at hextends
      cases hextends
  have hslash : c ≠ '/' := by
    rintro rfl
    revert hc
    decide
  have hquote : c ≠ '"' := by
    rintro rfl
    revert hc
    decide
  have hdigit := Text.isAsciiDigit_of_opensName hc
  rw [cut_plain _ hgap hslash hquote, if_neg (by simp [hdigit]), if_pos hc]

theorem cut_word {c : Char} {cs rest : List Char} (hc : Text.opensName c = true)
    (hcs : ∀ d ∈ cs, Text.extendsName d = true) (hrest : Stops rest) :
    cut c (cs ++ rest) = token (.ofWord (String.ofList (c :: cs))) (c :: cs) := by
  rw [cut_name _ hc, takeWhile_of_stops (fun _ => extendsName_of_isGap) hcs hrest]

theorem cut_extensible {c : Char} {kinds : TokenKind × TokenKind} (h : extensible c = some kinds)
    (cs : List Char) : cut c cs = operator c cs := by
  unfold extensible at h
  split at h
  · rw [cut_plain cs (by decide) (by decide) (by decide), if_neg (by decide), if_neg (by decide)]
  · rw [cut_plain cs (by decide) (by decide) (by decide), if_neg (by decide), if_neg (by decide)]
  · rw [cut_plain cs (by decide) (by decide) (by decide), if_neg (by decide), if_neg (by decide)]
  · rw [cut_plain cs (by decide) (by decide) (by decide), if_neg (by decide), if_neg (by decide)]
  · cases h

theorem cut_mark {c : Char} {kind : TokenKind} (h : punctuation c = some kind) {rest : List Char}
    (hrest : Stops rest) : cut c rest = token kind [c] := by
  have hslash : rest.head? ≠ some '/' := not_mem_head?_of_stops hrest (by decide)
  have hstar : rest.head? ≠ some '*' := not_mem_head?_of_stops hrest (by decide)
  unfold punctuation at h
  split at h <;> cases h
  -- A slash alone is no comment, and no other mark can open one.
  all_goals simp [cut, isGap, Text.isAsciiDigit, Text.opensName, Text.isLetter, Text.isAsciiLetter,
    operator, extensible, punctuation, hslash, hstar]

/-- A text that is spelled by a rule is one token, where a blank or nothing follows it. -/
theorem cut_of_lexeme {kind : TokenKind} {chars : List Char} (h : Lexeme kind chars) :
    ∃ c cs, chars = c :: cs ∧ ∀ rest, Stops rest → cut c (cs ++ rest) = token kind chars := by
  cases h with
  | @text cs hquote =>
    refine ⟨'"', cs ++ ['"'], rfl, fun rest _ => ?_⟩
    rw [List.append_assoc]
    exact cut_text rest hquote
  | whole hne hds =>
    obtain ⟨c, cs, rfl⟩ := List.exists_cons_of_ne_nil hne
    refine ⟨c, cs, rfl, fun rest hrest => ?_⟩
    rw [cut_digit _ (hds c List.mem_cons_self), ← List.cons_append, numberChars_whole hds hrest]
  | @decimal _ es hne hds hne' hes =>
    obtain ⟨c, cs, rfl⟩ := List.exists_cons_of_ne_nil hne
    refine ⟨c, cs ++ '.' :: es, rfl, fun rest hrest => ?_⟩
    rw [cut_digit _ (hds c List.mem_cons_self), List.append_assoc, List.cons_append,
      ← List.cons_append, numberChars_decimal hds hne' hes hrest]
  | @word c cs _ hc hcs hkind =>
    refine ⟨c, cs, rfl, fun rest hrest => ?_⟩
    rw [cut_word hc hcs hrest, hkind]
  | @mark c _ h => exact ⟨c, [], rfl, fun rest hrest => cut_mark h hrest⟩
  | @alone c _ _ h =>
    refine ⟨c, [], rfl, fun rest hrest => ?_⟩
    have hequal : rest.head? ≠ some '=' := not_mem_head?_of_stops hrest (by decide)
    rw [cut_extensible h, List.nil_append, operator, h]
    simp [hequal]
  | @extended c _ _ h =>
    refine ⟨c, ['='], rfl, fun rest _ => ?_⟩
    rw [cut_extensible h, operator, h]
    simp

end Piece

theorem Lexeme.kind_unique {kind kind' : TokenKind} {chars : List Char} (h : Lexeme kind chars)
    (h' : Lexeme kind' chars) : kind = kind' := by
  obtain ⟨c, cs, hchars, hcut⟩ := Piece.cut_of_lexeme h
  obtain ⟨d, ds, hchars', hcut'⟩ := Piece.cut_of_lexeme h'
  obtain ⟨rfl, rfl⟩ := List.cons.inj (hchars.symm.trans hchars')
  have hsame := (hcut [] Piece.stops_nil).symm.trans (hcut' [] Piece.stops_nil)
  injection hsame

theorem TokenKind.ofWord_ne {kind : TokenKind} (h : ∀ entry ∈ keywords, entry.2 ≠ kind)
    (hname : kind ≠ .identifier) (word : String) : ofWord word ≠ kind := by
  rw [ofWord]
  cases hword : keywords.lookup word with
  | none => exact hname.symm
  | some other =>
    obtain ⟨before, after, heq, _⟩ := List.lookup_eq_some_iff.mp hword
    exact h (word, other) (by simp [heq])

/-- A text is written in quotes and holds none. -/
theorem Lexeme.exists_text {chars : List Char} (h : Lexeme .string chars) :
    ∃ cs, '"' ∉ cs ∧ chars = '"' :: cs ++ ['"'] := by
  cases h with
  | @text cs hquote => exact ⟨cs, hquote, rfl⟩
  | word hc hcs hkind => exact absurd hkind (TokenKind.ofWord_ne (by decide) (by decide) _)
  | mark hmark =>
    unfold Piece.punctuation at hmark
    split at hmark <;> cases hmark
  | alone hext =>
    unfold Piece.extensible at hext
    split at hext <;> cases hext
  | extended hext =>
    unfold Piece.extensible at hext
    split at hext <;> cases hext

/-! ## Tokens -/

namespace Token

/-- A token as scanning makes it. Its kind and its value are those of its text. -/
structure IsScanned (t : Token) : Prop where
  lexeme : Lexeme t.kind t.lexeme.toList
  literal : t.literal = literalOf t.kind t.lexeme.toList

theorem isScanned_of_mem_scan {source : String} {t : Token} (h : t ∈ scan source)
    (hk : t.kind ≠ .eof) : t.IsScanned := by
  obtain ⟨p, kind, chars, rfl, hpiece | rfl⟩ := mem_findings (mem_scanAll_of_mem_scan h)
  · obtain ⟨c, cs, hcut⟩ := Piece.mem_split hpiece
    have htext : (place p kind chars).lexeme.toList = chars := String.toList_ofList
    refine ⟨?_, ?_⟩
    · rw [htext]
      exact Piece.lexeme_of_cut hcut.symm
    · rw [htext]
      rfl
  · exact absurd rfl hk

/-- What a token says depends on its text alone. -/
theorem IsScanned.content_eq {t u : Token} (ht : t.IsScanned) (hu : u.IsScanned)
    (h : t.lexeme = u.lexeme) : t.content = u.content := by
  have hkind : t.kind = u.kind := (h ▸ ht.lexeme).kind_unique hu.lexeme
  have hliteral : t.literal = u.literal := by rw [ht.literal, hu.literal, h, hkind]
  rw [content, content, hkind, h, hliteral]

end Token
end RiftScript
