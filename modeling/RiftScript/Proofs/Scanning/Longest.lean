/-
Tokens reach as far as they can.

`Lexeme` says which texts are tokens, and nothing about how far a token reaches. Here that is
settled: of all the texts of tokens that a place could start, scanning takes a longest one, whatever
their kinds. So no longer stretch of the script from the same place on is a token by itself.
-/
import RiftScript.Proofs.Scanning.Lexemes
import RiftScript.Proofs.Scanning.Segmentation

namespace RiftScript

namespace Piece

/-! ## Stretches of one sort -/

theorem length_le_takeWhile {p : Char → Bool} {cs : List Char} (hcs : ∀ c ∈ cs, p c = true)
    (rest : List Char) : cs.length ≤ ((cs ++ rest).takeWhile p).length := by
  rw [List.takeWhile_append_of_pos hcs, List.length_append]
  omega

theorem length_le_whole {ds : List Char} (hds : ∀ d ∈ ds, Text.isAsciiDigit d = true)
    (rest : List Char) : ds.length ≤ (numberChars (ds ++ rest)).length := by
  have hwhole := length_le_takeWhile hds rest
  unfold numberChars
  dsimp only
  split
  · split
    · exact hwhole
    · rw [List.length_append]
      omega
  · exact hwhole

theorem length_le_decimal {ds es : List Char} (hds : ∀ d ∈ ds, Text.isAsciiDigit d = true)
    (hne : es ≠ []) (hes : ∀ e ∈ es, Text.isAsciiDigit e = true) (rest : List Char) :
    (ds ++ '.' :: es).length ≤ (numberChars (ds ++ '.' :: (es ++ rest))).length := by
  have hpoint : Text.isAsciiDigit '.' = false := by decide
  have hfraction := length_le_takeWhile hes rest
  have hpos : 0 < es.length := List.length_pos_iff.mpr hne
  have hsome : ((es ++ rest).takeWhile Text.isAsciiDigit).isEmpty = false := by
    rw [List.isEmpty_eq_false_iff, ← List.length_pos_iff]
    omega
  rw [numberChars, List.dropWhile_append_of_pos hds,
    List.dropWhile_cons_of_neg (by simp [hpoint]), List.takeWhile_append_of_pos hds,
    List.takeWhile_cons_of_neg (by simp [hpoint]), List.append_nil]
  simp only [hsome, List.length_append, List.length_cons]
  show ds.length + (es.length + 1) ≤ (ds ++ '.' :: (es ++ rest).takeWhile Text.isAsciiDigit).length
  rw [List.length_append, List.length_cons]
  omega

/-! ## No text of a token is longer than the token that is cut -/

theorem length_cut_pos (c : Char) (cs : List Char) : 0 < (cut c cs).chars.length :=
  List.length_pos_iff.mpr (cut_splits c cs).1

/-- Where a script goes on with the text of a token, whatever its kind, the piece that is cut is at
least as long. -/
theorem length_le_of_lexeme {kind : TokenKind} {chars : List Char} (h : Lexeme kind chars) :
    ∃ c cs, chars = c :: cs ∧ ∀ rest, chars.length ≤ (cut c (cs ++ rest)).chars.length := by
  cases h with
  | @text cs hquote =>
    refine ⟨'"', cs ++ ['"'], rfl, fun rest => ?_⟩
    rw [List.append_assoc, List.singleton_append, cut_text rest hquote]
    exact Nat.le_refl _
  | whole hne hds =>
    obtain ⟨c, cs, rfl⟩ := List.exists_cons_of_ne_nil hne
    refine ⟨c, cs, rfl, fun rest => ?_⟩
    rw [cut_digit _ (hds c List.mem_cons_self)]
    exact length_le_whole hds rest
  | @decimal ds es hne hds hne' hes =>
    obtain ⟨c, cs, rfl⟩ := List.exists_cons_of_ne_nil hne
    refine ⟨c, cs ++ '.' :: es, rfl, fun rest => ?_⟩
    rw [cut_digit _ (hds c List.mem_cons_self), List.append_assoc, List.cons_append]
    exact length_le_decimal hds hne' hes rest
  | @word c cs _ hc hcs hkind =>
    refine ⟨c, cs, rfl, fun rest => ?_⟩
    rw [cut_name _ hc]
    exact Nat.succ_le_succ (length_le_takeWhile hcs rest)
  | @mark c _ h => exact ⟨c, [], rfl, fun rest => length_cut_pos c rest⟩
  | @alone c _ _ h => exact ⟨c, [], rfl, fun rest => length_cut_pos c rest⟩
  | @extended c _ _ h =>
    refine ⟨c, ['='], rfl, fun rest => ?_⟩
    rw [cut_extensible h, operator, h]
    simp [Piece.chars]

end Piece

/-! ## Tokens in their scripts -/

/-- A token is what was cut where it stands. -/
theorem exists_cut_of_mem_findings {t : Token} {p : Position} {cs : List Char}
    (h : .token t ∈ findings p (Piece.all cs)) (hk : t.kind ≠ .eof) :
    ∃ before c rest, cs = before ++ c :: rest ∧ t.offset = p.offset + before.length ∧
      (Piece.cut c rest).chars = t.lexeme.toList := by
  induction cs using Piece.cut_induction generalizing p with
  | nil =>
    obtain rfl : t = Token.place p .eof [] := by simpa [findings, Piece.all, Piece.split] using h
    exact absurd rfl hk
  | cons c cs rest hcs hall ih =>
    rw [hall, findings] at h
    rcases List.mem_append.mp h with hfirst | hmore
    · refine ⟨[], c, cs, rfl, ?_⟩
      cases hcut : Piece.cut c cs with
      | token kind chars =>
        rw [hcut] at hfirst
        obtain rfl : t = Token.place p kind chars := by simpa [Piece.finding?] using hfirst
        exact ⟨rfl, String.toList_ofList.symm⟩
      | _ => simp [hcut, Piece.finding?] at hfirst
    · obtain ⟨before, d, rest', rfl, hoffset, hchars⟩ := ih hmore
      refine ⟨(Piece.cut c cs).chars ++ before, d, rest', ?_, ?_, hchars⟩
      · rw [hcs, List.append_assoc]
      · rw [hoffset, Position.offset_afterAll, List.length_append]
        omega

theorem Token.lexeme_of_eof {source : String} {t : Token} (h : t ∈ scan source)
    (hk : t.kind = .eof) : t.lexeme = "" := by
  obtain ⟨stop, hscan, _, hlexeme⟩ := scan_eq_append_stop source
  rw [hscan] at h
  rcases List.mem_append.mp h with h | h
  · exact absurd hk (bne_iff_ne.mp (List.mem_filter.mp h).2)
  · rw [List.mem_singleton.mp h]
    exact hlexeme

/-- A token reaches as far as it can: no stretch of the script that starts where the token does and
is longer is the text of a token by itself. -/
theorem scan_longest {source : String} {t : Token} (ht : t ∈ scan source) (hk : t.kind ≠ .eof)
    {n : Nat} (hn : t.lexeme.length < n) (hfits : t.offset + n ≤ source.length) :
    let stretch := String.ofList (slice source.toList t.offset (t.offset + n))
    ∀ u ∈ scan stretch, u.lexeme ≠ stretch := by
  intro stretch u hu hwhole
  have hchars : stretch.toList = (source.toList.drop t.offset).take n := by
    rw [String.toList_ofList, slice, Nat.add_sub_cancel_left]
  have hlength : stretch.toList.length = n := by
    rw [hchars, List.length_take, List.length_drop, String.length_toList]
    omega
  -- The stretch is the text of a token, so it is spelled by a rule.
  have hlexeme : Lexeme u.kind stretch.toList := by
    have hne : u.kind ≠ .eof := by
      intro heof
      rw [← hwhole, Token.lexeme_of_eof hu heof] at hlength
      have : n = 0 := hlength.symm
      omega
    rw [← hwhole]
    exact (Token.isScanned_of_mem_scan hu hne).lexeme
  obtain ⟨d, ds, hstretch, hreach⟩ := Piece.length_le_of_lexeme hlexeme
  obtain ⟨before, c, rest, hsource, hoffset, hcut⟩ :=
    exists_cut_of_mem_findings (mem_scanAll_of_mem_scan ht) hk
  have hdrop : c :: rest = (d :: ds) ++ (source.toList.drop t.offset).drop n := by
    rw [← hstretch, hchars, List.take_append_drop, hoffset, hsource]
    show _ = (before ++ c :: rest).drop (0 + before.length)
    rw [Nat.zero_add, List.drop_left]
  obtain ⟨rfl, hrest⟩ := List.cons.inj hdrop
  have hle := hreach ((source.toList.drop t.offset).drop n)
  rw [hlength, ← List.append_eq, ← hrest, hcut, String.length_toList] at hle
  omega

/-- All of this script starts and ends with a quote, but its first token ends at the second one. -/
theorem scan_longest_quoted :
    let t := Token.place .start .string ['"', 'a', '"']
    (t ∈ scan "\"a\" b\"" ∧ t.kind ≠ .eof ∧ t.lexeme.length < 6 ∧
        t.offset + 6 ≤ "\"a\" b\"".length) ∧
      ∀ u ∈ scan "\"a\" b\"", u.lexeme ≠ "\"a\" b\"" := by
  intro t
  have ht : t ∈ scan "\"a\" b\"" := by decide +kernel
  exact ⟨⟨ht, by decide, by decide, by decide⟩,
    scan_longest ht (by decide) (n := 6) (by decide) (by decide)⟩

end RiftScript
