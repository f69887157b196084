/-
Scanning the texts of tokens again.

The texts of some tokens are written one after another, with a single space between them. Each of
them is spelled by a rule and has a blank or nothing behind it, so it is found again as a whole, and
scanning finds nothing else. What stood between the tokens in the script they are from, be it
comments, errors or nothing at all, makes no difference.
-/
import RiftScript.Proofs.Scanning.Lexemes
import RiftScript.Proofs.Scanning.Segmentation
import RiftScript.Proofs.Trees.Forms

namespace RiftScript

namespace Piece

/-- The pieces of a text that starts with the text of a token. -/
theorem all_of_lexeme {kind : TokenKind} {chars rest : List Char} (h : Lexeme kind chars)
    (hrest : Stops rest) : all (chars ++ rest) = token kind chars :: all rest := by
  obtain ⟨c, cs, rfl, hcut⟩ := cut_of_lexeme h
  have hpiece : cut c (cs ++ rest) = token kind (c :: cs) := hcut rest hrest
  have hne : (cut c (cs ++ rest)).chars ≠ [] := by
    rw [hpiece]
    exact List.cons_ne_nil c cs
  have hchars : c :: (cs ++ rest) = (cut c (cs ++ rest)).chars ++ rest := by
    rw [hpiece]
    rfl
  rw [List.cons_append, all_cons hne hchars, hpiece]

theorem all_of_isGap {c : Char} (hc : isGap c = true) (rest : List Char) :
    all (c :: rest) = blank c :: all rest := by
  have hpiece : cut c rest = blank c := by
    rw [cut, if_pos hc]
  have hne : (cut c rest).chars ≠ [] := by
    rw [hpiece]
    exact List.cons_ne_nil c []
  have hchars : c :: rest = (cut c rest).chars ++ rest := by
    rw [hpiece]
    rfl
  rw [all_cons hne hchars, hpiece]

end Piece

namespace Token

/-- What the end token says. -/
def endContent : TokenKind × String × Value :=
  (.eof, "", .nil)

/-- The texts of tokens, with a space between them. -/
def spaced (ts : List Token) : String :=
  " ".intercalate (ts.map lexeme)

/-- A token can be found again at any place. -/
theorem IsScanned.content_place {t : Token} (h : t.IsScanned) (p : Position) :
    (place p t.kind t.lexeme.toList).content = t.content := by
  rw [content, content, h.literal]
  exact congrArg (fun text => (t.kind, text, _)) String.ofList_toList

theorem IsScanned.findings_append {t : Token} (h : t.IsScanned) {rest : List Char}
    (hrest : Piece.Stops rest) (p : Position) :
    findings p (Piece.all (t.lexeme.toList ++ rest))
      = .token (place p t.kind t.lexeme.toList)
        :: findings (p.afterAll t.lexeme.toList) (Piece.all rest) := by
  rw [Piece.all_of_lexeme h.lexeme hrest]
  rfl

theorem stops_behind (texts : List String) : Piece.Stops (Form.behind ' ' texts) := by
  cases texts with
  | nil => exact Piece.stops_nil
  | cons text texts =>
    rw [Form.behind_cons]
    intro c hc
    obtain rfl : ' ' = c := Option.some.inj hc
    rfl

/-- The tokens, with a space in front of each, are found again one by one. -/
theorem findings_behind {ts : List Token} (hts : ∀ t ∈ ts, t.IsScanned) (p : Position) :
    ∃ us : List Token, findings p (Piece.all (Form.behind ' ' (ts.map lexeme))) = us.map .token ∧
      us.map content = ts.map content ++ [endContent] := by
  induction ts generalizing p with
  | nil => exact ⟨[place p .eof []], rfl, rfl⟩
  | cons t ts ih =>
    obtain ⟨ht, hmore⟩ := List.forall_mem_cons.mp hts
    obtain ⟨us, hus, hcontent⟩ := ih hmore ((p.after ' ').afterAll t.lexeme.toList)
    refine ⟨place (p.after ' ') t.kind t.lexeme.toList :: us, ?_, ?_⟩
    · rw [List.map_cons, Form.behind_cons, Piece.all_of_isGap rfl, List.map_cons, ← hus,
        ← ht.findings_append (stops_behind _)]
      rfl
    · rw [List.map_cons, ht.content_place, hcontent, List.map_cons, List.cons_append]

/-- The tokens are found again in their texts. -/
theorem scanAll_spaced {ts : List Token} (hts : ∀ t ∈ ts, t.IsScanned) :
    ∃ us : List Token, scanAll (spaced ts) = us.map .token ∧
      us.map content = ts.map content ++ [endContent] := by
  cases ts with
  | nil => exact ⟨[place .start .eof []], rfl, rfl⟩
  | cons t ts =>
    obtain ⟨ht, hmore⟩ := List.forall_mem_cons.mp hts
    obtain ⟨us, hus, hcontent⟩ := findings_behind hmore (Position.start.afterAll t.lexeme.toList)
    refine ⟨place .start t.kind t.lexeme.toList :: us, ?_, ?_⟩
    · have hspace : " ".toList = [' '] := rfl
      rw [scanAll, spaced, List.map_cons, Form.toList_intercalate_cons hspace,
        ht.findings_append (stops_behind _), hus, List.map_cons]
    · rw [List.map_cons, ht.content_place, hcontent, List.map_cons, List.cons_append]

end Token

/-! ## Whole scripts -/

theorem Token.literal_of_eof {source : String} {t : Token} (h : t ∈ scan source)
    (hk : t.kind = .eof) : t.literal = .nil := by
  obtain ⟨p, kind, chars, rfl, -⟩ := mem_findings (mem_scanAll_of_mem_scan h)
  obtain rfl : kind = .eof := hk
  rfl

/-- The tokens of a script are scanned tokens, with an end token behind them. -/
theorem content_scan (source : String) :
    (∀ t ∈ (scan source).filter (·.kind != .eof), t.IsScanned) ∧
      (scan source).map Token.content
        = ((scan source).filter (·.kind != .eof)).map Token.content ++ [Token.endContent] := by
  obtain ⟨stop, hscan, hk, hl⟩ := scan_eq_append_stop source
  have hmem : stop ∈ scan source := by
    rw [hscan]
    exact List.mem_append_right _ List.mem_cons_self
  have hstop : stop.content = Token.endContent := by
    rw [Token.content, hk, hl, Token.literal_of_eof hmem hk, Token.endContent]
  refine ⟨?_, ?_⟩
  · intro t ht
    obtain ⟨hscanned, hkind⟩ := List.mem_filter.mp ht
    exact Token.isScanned_of_mem_scan hscanned (bne_iff_ne.mp hkind)
  · rw [← hstop, ← List.map_singleton, ← List.map_append, ← hscan]

/-- What scanning finds depends on the texts of the tokens alone. Written again with single spaces
between them, they are scanned without an error, to tokens of the same kinds, texts and values. -/
theorem scan_spaced (source : String) :
    let text := Token.spaced ((scan source).filter (·.kind != .eof))
    scanErrors text = [] ∧
      (scan text).map Token.content = (scan source).map Token.content := by
  intro text
  obtain ⟨hscanned, hcontent⟩ := content_scan source
  obtain ⟨us, hus, hsame⟩ := Token.scanAll_spaced hscanned
  have herrors : scanErrors text = [] := by
    rw [scanErrors, hus]
    simp [Finding.error?]
  have htokens : scan text = us := by
    rw [scan, hus, List.filterMap_map]
    exact List.filterMap_some
  exact ⟨herrors, by rw [htokens, hsame, hcontent]⟩

end RiftScript
