/-
The ranges of diagnostics.

A diagnostic about a syntax error starts at the token that is blamed, and it ends on the same line,
as many columns further on as the token has characters. So its range is that of the token exactly if
the token has no newline in it. Of all tokens only texts may span lines.
-/
import RiftScript.Proofs.Recovery.Progress
import RiftScript.Proofs.Scanning.Longest
import RiftScript.Proofs.Scanning.Positions

namespace RiftScript

/-! ## Places after a token -/

namespace Position

theorem line_afterAll (p : Position) (cs : List Char) :
    (p.afterAll cs).line = p.line + cs.count '\n' := by
  induction cs generalizing p with
  | nil => rfl
  | cons c cs ih =>
    show ((p.after c).afterAll cs).line = _
    rw [ih, after]
    split
    · next hc =>
      rw [hc, List.count_cons_self]
      show p.line + 1 + cs.count '\n' = _
      omega
    · next hc => rw [List.count_cons_of_ne hc]

/-- A text without a newline stays on its line. -/
theorem column_afterAll (p : Position) {cs : List Char} (h : '\n' ∉ cs) :
    (p.afterAll cs).column = p.column + cs.length := by
  induction cs generalizing p with
  | nil => rfl
  | cons c cs ih =>
    rw [List.mem_cons, not_or] at h
    show ((p.after c).afterAll cs).column = _
    rw [ih _ h.2, after, if_neg (Ne.symm h.1), List.length_cons]
    show p.column + 1 + cs.length = _
    omega

theorem afterAll_take (source : List Char) (n : Nat) :
    (start.afterAll (source.take n)).line = (ofOffset source n).line ∧
      (start.afterAll (source.take n)).column = (ofOffset source n).column := by
  have hcount := afterAll_reverse (source.take n).reverse
  rw [List.reverse_reverse, List.count_reverse] at hcount
  rw [hcount]
  exact ⟨rfl, rfl⟩

end Position

section

variable {source : List Char} {t : Token}
  (h : slice source t.offset t.endOffset = t.lexeme.toList)

include h

theorem take_endOffset : source.take t.endOffset = source.take t.offset ++ t.lexeme.toList := by
  rw [← h, slice, Token.endOffset, Nat.add_sub_cancel_left, List.take_add]

theorem line_endOffset :
    (Position.ofOffset source t.endOffset).line =
      (Position.ofOffset source t.offset).line + t.lexeme.toList.count '\n' := by
  rw [← (Position.afterAll_take source t.endOffset).1, take_endOffset h, Position.afterAll_append,
    Position.line_afterAll, (Position.afterAll_take source t.offset).1]

theorem column_endOffset (hline : '\n' ∉ t.lexeme.toList) :
    (Position.ofOffset source t.endOffset).column =
      (Position.ofOffset source t.offset).column + t.lexeme.length := by
  rw [← (Position.afterAll_take source t.endOffset).2, take_endOffset h, Position.afterAll_append,
    Position.column_afterAll _ hline, (Position.afterAll_take source t.offset).2,
    String.length_toList]

end

/-! ## Ranges -/

namespace Diagnostic

/-- The range starts at the first character of a token. -/
def StartsAt (source : List Char) (t : Token) (d : Diagnostic) : Prop :=
  d.line = (Position.ofOffset source t.offset).line ∧
    d.column = (Position.ofOffset source t.offset).column

/-- The range ends just past the last character of a token. -/
def EndsAfter (source : List Char) (t : Token) (d : Diagnostic) : Prop :=
  d.endLine = (Position.ofOffset source t.endOffset).line ∧
    d.endColumn = (Position.ofOffset source t.endOffset).column

instance (source : List Char) (t : Token) (d : Diagnostic) : Decidable (d.StartsAt source t) :=
  inferInstanceAs (Decidable (_ ∧ _))

instance (source : List Char) (t : Token) (d : Diagnostic) : Decidable (d.EndsAfter source t) :=
  inferInstanceAs (Decidable (_ ∧ _))

theorem endsAfter_iff {source : List Char} {e : SyntaxError} (hplaced : e.token.IsPlaced source)
    (htext : slice source e.token.offset e.token.endOffset = e.token.lexeme.toList) :
    (ofSyntaxError e).EndsAfter source e.token ↔ '\n' ∉ e.token.lexeme.toList := by
  have hline := line_endOffset htext
  constructor
  · intro hends hmem
    have hcount := List.count_pos_iff.mpr hmem
    have hend : e.token.line = (Position.ofOffset source e.token.endOffset).line := hends.1
    have hstart := hplaced.1
    omega
  · intro hmem
    have hcolumn := column_endOffset htext hmem
    rw [List.count_eq_zero_of_not_mem hmem] at hline
    refine ⟨?_, ?_⟩
    · show e.token.line = _
      rw [hplaced.1, hline, Nat.add_zero]
    · show e.token.column + e.token.lexeme.length = _
      rw [hplaced.2, hcolumn, Int.natCast_add]

end Diagnostic

/-- Only texts may have a newline in them. -/
theorem Lexeme.eq_string_of_newline {kind : TokenKind} {chars : List Char} (h : Lexeme kind chars)
    (hline : '\n' ∈ chars) : kind = .string := by
  have hdigit : ∀ {ds : List Char}, (∀ d ∈ ds, Text.isAsciiDigit d = true) → '\n' ∉ ds := by
    intro ds hds hmem
    exact absurd (hds _ hmem) (by decide)
  cases h with
  | text => rfl
  | whole _ hds => exact absurd hline (hdigit hds)
  | decimal _ hds _ hes =>
    rcases List.mem_append.mp hline with hline | hline
    · exact absurd hline (hdigit hds)
    · rcases List.mem_cons.mp hline with hpoint | hline
      · exact absurd hpoint (by decide)
      · exact absurd hline (hdigit hes)
  | word hc hcs =>
    rcases List.mem_cons.mp hline with rfl | hline
    · cases hc
    · cases hcs _ hline
  | mark hmark =>
    cases List.mem_singleton.mp hline
    cases hmark
  | alone hext =>
    cases List.mem_singleton.mp hline
    cases hext
  | extended hext =>
    rcases List.mem_cons.mp hline with rfl | hline
    · cases hext
    · cases List.mem_singleton.mp hline

/-! ## Blamed tokens -/

namespace Recovery

theorem Runs.last_suffix {s : TokenStream} {limit : Int} {found : Nat} {ts last : List Token}
    {statements : List Stmt} {failures : List SyntaxError}
    (h : Runs s limit found ts statements failures last) : last <:+ ts := by
  induction h with
  | finish => exact List.suffix_refl []
  | read _ h _ ih => exact ih.trans (rest_suffix h)
  | skip _ h _ _ ih => exact ih.trans (resume_suffix h)
  | giveUp _ h _ _ => exact resume_suffix h

/-- Every error blames a token of the script or the end token. -/
theorem token_mem_of_mem_errors {ts : List Token} {limit : Option Int} {e : SyntaxError}
    (h : e ∈ (parseRecovering ts limit).errors) :
    e.token ∈ (TokenStream.ofTokens ts).tokens ++ [(TokenStream.ofTokens ts).stop] := by
  obtain ⟨statements, failures, last, hruns, hcollect⟩ :=
    @exists_runs (.ofTokens ts) (limit.getD defaultLimit) 0 (TokenStream.ofTokens ts).tokens _
      (Nat.le_refl _)
  have herrors : (parseRecovering ts limit).errors =
      failures ++ closing (.ofTokens ts) (limit.getD defaultLimit) last :=
    congrArg Outcome.errors hcollect
  rw [herrors] at h
  refine List.mem_of_getElem? (i := e.index) ?_
  rcases List.mem_append.mp h with h | h
  · exact hruns.token_at_index (List.suffix_refl _) e h
  · rw [closing] at h
    split at h
    · cases h
    · rw [List.mem_singleton.mp h]
      exact TokenStream.token_errorAt _ hruns.last_suffix

end Recovery

theorem stream_of_scan (source : String) :
    (TokenStream.ofTokens (scan source)).tokens ++ [(TokenStream.ofTokens (scan source)).stop] =
      scan source := by
  obtain ⟨stop, hscan, hstop, _⟩ := scan_eq_append_stop source
  have hkept : ∀ t ∈ (scan source).filter (·.kind != .eof), t.kind ≠ .eof :=
    fun t ht => bne_iff_ne.mp (List.mem_filter.mp ht).2
  have hstream := TokenStream.ofTokens_append hkept hstop
  rw [← hscan] at hstream
  rw [hstream]
  exact hscan.symm

theorem Token.offset_of_eof {source : String} {t : Token} (h : t ∈ scan source)
    (hk : t.kind = .eof) : t.offset = source.length := by
  have hsegmented : Segmented 0 source.toList (scan source) (faultsOf (scanAll source)) :=
    segmented_findings .start source.toList
  obtain ⟨tokens, stop, hscan, _, _, hoffset, hall⟩ := hsegmented.ends
  rw [hscan] at h
  rcases List.mem_append.mp h with h | h
  · exact absurd hk (hall t h).1
  · rw [List.mem_singleton.mp h, hoffset, Nat.zero_add, String.length_toList]

theorem Token.eq_string_of_newline {source : String} {t : Token} (h : t ∈ scan source)
    (hline : '\n' ∈ t.lexeme.toList) : t.kind = .string := by
  have hk : t.kind ≠ .eof := by
    intro hk
    rw [Token.lexeme_of_eof h hk] at hline
    cases hline
  exact (Token.isScanned_of_mem_scan h hk).lexeme.eq_string_of_newline hline

/-! ## Whole scripts -/

/-- Every diagnostic about a syntax error is about a token of the script. It starts at the first
character of the token, and for the end token at the end of the script. It ends just past the last
character exactly if the token is on one line, and every token is that is no text. -/
theorem diagnostics_cover {source : String} {limit : Option Int} {d : Diagnostic}
    (h : d ∈ (check source limit).diagnostics) (hcode : d.code ≠ .scanning) :
    ∃ t ∈ scan source, slice source.toList t.offset t.endOffset = t.lexeme.toList ∧
      (t.kind = .eof → t.offset = source.length ∧ t.endOffset = source.length) ∧
      d.StartsAt source.toList t ∧
      (d.EndsAfter source.toList t ↔ '\n' ∉ t.lexeme.toList) ∧
      ('\n' ∈ t.lexeme.toList → t.kind = .string) := by
  have hsegmented : Segmented 0 source.toList (scan source) (faultsOf (scanAll source)) :=
    segmented_findings .start source.toList
  obtain ⟨gaps, hplaced⟩ := placed_findings source.toList [] rfl
  rcases List.mem_append.mp h with h | h
  · obtain ⟨e, _, rfl⟩ := List.mem_map.mp h
    exact absurd rfl hcode
  · obtain ⟨e, he, rfl⟩ := List.mem_map.mp h
    have ht : e.token ∈ scan source := stream_of_scan source ▸ Recovery.token_mem_of_mem_errors he
    have htext : slice source.toList e.token.offset e.token.endOffset = e.token.lexeme.toList :=
      hsegmented.slice_eq_lexeme List.length_nil e.token ht
    have hstarts : e.token.IsPlaced source.toList := (hplaced.tokens e.token ht).2
    refine ⟨e.token, ht, htext, fun hk => ?_, hstarts, Diagnostic.endsAfter_iff hstarts htext,
      Token.eq_string_of_newline ht⟩
    have hoffset := Token.offset_of_eof ht hk
    refine ⟨hoffset, ?_⟩
    rw [Token.endOffset, hoffset, Token.lexeme_of_eof ht hk]
    rfl

/-- A text that spans lines stands in front of the token that is blamed, so the range is on the
second line. -/
theorem diagnostics_cover_second_line :
    let source := "\"a\nb\" + ;"
    let d : Diagnostic := ⟨2, 6, 2, 7, .error, .parsing, "Expect expression."⟩
    d ∈ (check source none).diagnostics ∧ d.code ≠ .scanning ∧
      ∃ t ∈ scan source, d.StartsAt source.toList t ∧
        (d.EndsAfter source.toList t ↔ '\n' ∉ t.lexeme.toList) := by
  intro source d
  have hd : d ∈ (check source none).diagnostics := by decide +kernel
  have hcode : d.code ≠ .scanning := by decide
  obtain ⟨t, ht, _, _, hstarts, hends, _⟩ := diagnostics_cover hd hcode
  exact ⟨hd, hcode, t, ht, hstarts, hends⟩

/-- Where the text itself is blamed the range ends on its first line, behind all that stands there.
No token ends at that place. -/
theorem diagnostics_miss_texts :
    let source := "if \"a\nb\""
    ∃ d ∈ (check source none).diagnostics, d.code ≠ .scanning ∧
      ¬ ∃ t ∈ scan source, d.StartsAt source.toList t ∧ d.EndsAfter source.toList t := by
  decide +kernel

end RiftScript
