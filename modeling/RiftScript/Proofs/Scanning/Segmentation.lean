/-
Scanning covers a script exactly once.

Every character of a script belongs to one token or to the filler between tokens. `Segmented` says
so of the text from an offset on: it is laid out as tokens and fillers in turn, each token at the
offset where its text starts, with the end token after the last of them. From that follow the
order of the tokens, the text at their offsets, and what the gaps between them hold.
-/
import RiftScript.Proofs.Scanning.Pieces
import RiftScript.Script

namespace RiftScript

/-- The text from the offset `n` on is laid out as the tokens and the fillers between them. The
faults are those of the fillers, in order. -/
inductive Segmented : (n : Nat) → List Char → List Token → List ScanFault → Prop where
  | stop {n : Nat} {t : Token} (hk : t.kind = .eof) (ho : t.offset = n) (hl : t.lexeme = "") :
      Segmented n [] [t] []
  | token {n : Nat} {t : Token} {rest : List Char} {ts : List Token} {faults : List ScanFault}
      (hk : t.kind ≠ .eof) (ho : t.offset = n) (hl : t.lexeme ≠ "")
      (h : Segmented t.endOffset rest ts faults) :
      Segmented n (t.lexeme.toList ++ rest) (t :: ts) faults
  | filler {n : Nat} {f : Filler} {rest : List Char} {ts : List Token} {faults : List ScanFault}
      (hf : f.FitsBefore rest) (h : Segmented (n + f.chars.length) rest ts faults) :
      Segmented n (f.chars ++ rest) ts (f.fault?.toList ++ faults)

/-! ## Scanning lays a script out -/

theorem Position.offset_afterAll (p : Position) (cs : List Char) :
    (p.afterAll cs).offset = p.offset + cs.length := by
  induction cs generalizing p with
  | nil => rfl
  | cons c cs ih =>
    have hafter : (p.after c).offset = p.offset + 1 := by
      unfold after
      split <;> rfl
    have hcons : p.afterAll (c :: cs) = (p.after c).afterAll cs := rfl
    rw [hcons, ih, hafter, List.length_cons]
    omega

/-- The faults among the findings. -/
def faultsOf (fs : List Finding) : List ScanFault :=
  (fs.filterMap Finding.error?).map ScanError.fault

theorem segmented_findings (p : Position) (cs : List Char) :
    Segmented p.offset cs ((findings p (Piece.all cs)).filterMap Finding.token?)
      (faultsOf (findings p (Piece.all cs))) := by
  induction cs using Piece.all_induction generalizing p with
  | nil => exact .stop rfl rfl rfl
  | token kind chars rest hk hne ih =>
    have htext : (Token.place p kind chars).lexeme.toList = chars := String.toList_ofList
    have hend : (Token.place p kind chars).endOffset = (p.afterAll chars).offset := by
      rw [Token.endOffset, ← String.length_toList, htext, Position.offset_afterAll]
      rfl
    have hlexeme : (Token.place p kind chars).lexeme ≠ "" := by
      intro hempty
      rw [hempty] at htext
      exact hne htext.symm
    have hsegmented := Segmented.token hk rfl hlexeme (hend ▸ ih (p.afterAll chars))
    rw [htext] at hsegmented
    exact hsegmented
  | filler f rest hf ih =>
    have hsegmented := Segmented.filler (n := p.offset) hf
      (Position.offset_afterAll p f.chars ▸ ih (p.afterAll f.chars))
    rw [findings, f.finding?_piece, f.chars_piece]
    cases hfault : f.fault? with
    | none =>
      rw [hfault] at hsegmented
      exact hsegmented
    | some why =>
      rw [hfault] at hsegmented
      exact hsegmented

/-! ## What a layout says about its tokens -/

namespace Segmented

variable {n : Nat} {cs : List Char} {ts : List Token} {faults : List ScanFault}

theorem ends (h : Segmented n cs ts faults) :
    ∃ tokens stop, ts = tokens ++ [stop] ∧ stop.kind = .eof ∧ stop.lexeme = "" ∧
      stop.offset = n + cs.length ∧ ∀ t ∈ tokens, t.kind ≠ .eof ∧ t.lexeme ≠ "" := by
  induction h with
  | @stop n t hk ho hl => exact ⟨[], t, rfl, hk, hl, ho, by simp⟩
  | @token n t rest ts faults hk ho hl h ih =>
    obtain ⟨tokens, stop, rfl, hstop, hlexeme, hoffset, hall⟩ := ih
    refine ⟨t :: tokens, stop, rfl, hstop, hlexeme, ?_, ?_⟩
    · rw [hoffset, Token.endOffset, ho, List.length_append, String.length_toList]
      omega
    · intro u hu
      rcases List.mem_cons.mp hu with rfl | hu
      · exact ⟨hk, hl⟩
      · exact hall u hu
  | @filler n f rest ts faults hf h ih =>
    obtain ⟨tokens, stop, rfl, hstop, hlexeme, hoffset, hall⟩ := ih
    refine ⟨tokens, stop, rfl, hstop, hlexeme, ?_, hall⟩
    rw [hoffset, List.length_append]
    omega

theorem le_offset (h : Segmented n cs ts faults) : ∀ t ∈ ts, n ≤ t.offset := by
  induction h with
  | stop hk ho hl => simp [ho]
  | @token n t rest ts faults hk ho hl h ih =>
    intro u hu
    rcases List.mem_cons.mp hu with rfl | hu
    · exact Nat.le_of_eq ho.symm
    · have := ih u hu
      rw [Token.endOffset] at this
      omega
  | filler hf h ih =>
    intro u hu
    have := ih u hu
    omega

theorem pairwise (h : Segmented n cs ts faults) :
    ts.Pairwise fun t u => t.endOffset ≤ u.offset := by
  induction h with
  | stop => exact List.pairwise_singleton _ _
  | token hk ho hl h ih => exact List.pairwise_cons.mpr ⟨h.le_offset, ih⟩
  | filler hf h ih => exact ih

end Segmented

/-! ## The text at the offsets -/

/-- The characters from one offset up to another. -/
def slice (source : List Char) (i j : Nat) : List Char :=
  (source.drop i).take (j - i)

theorem slice_self (source : List Char) (i : Nat) : slice source i i = [] := by
  simp [slice]

theorem slice_append_drop {source : List Char} {i j : Nat} (h : i ≤ j) :
    slice source i j ++ source.drop j = source.drop i := by
  have hdrop : source.drop j = (source.drop i).drop (j - i) := by
    rw [List.drop_drop, Nat.add_sub_cancel' h]
  rw [slice, hdrop, List.take_append_drop]

theorem slice_append {before chars rest : List Char} {n : Nat} (hn : before.length = n) :
    slice (before ++ (chars ++ rest)) n (n + chars.length) = chars := by
  rw [slice, ← hn, List.drop_left, Nat.add_sub_cancel_left, List.take_left]

theorem Segmented.slice_eq_lexeme {n : Nat} {cs before : List Char} {ts : List Token}
    {faults : List ScanFault} (h : Segmented n cs ts faults) (hn : before.length = n) :
    ∀ t ∈ ts, slice (before ++ cs) t.offset t.endOffset = t.lexeme.toList := by
  induction h generalizing before with
  | @stop n t hk ho hl =>
    intro u hu
    obtain rfl : u = t := by simpa using hu
    rw [slice, Token.endOffset, hl]
    simp
  | @token n t rest ts faults hk ho hl h ih =>
    intro u hu
    rcases List.mem_cons.mp hu with rfl | hu
    · rw [Token.endOffset, ho, ← String.length_toList]
      exact slice_append hn
    · rw [← List.append_assoc]
      apply ih _ u hu
      rw [List.length_append, hn, String.length_toList, Token.endOffset, ho]
  | @filler n f rest ts faults hf h ih =>
    rw [← List.append_assoc]
    apply ih
    rw [List.length_append, hn]

/-! ## The gaps between tokens -/

/-- The fillers make up the gap in front of `rest`, where `rest` is all that follows it. -/
inductive Filler.Fill (rest : List Char) : List Filler → (gap : List Char) → Prop where
  | nil : Filler.Fill rest [] []
  | cons {f : Filler} {fs : List Filler} {gap : List Char} (hf : f.FitsBefore (gap ++ rest))
      (hfs : Filler.Fill rest fs gap) : Filler.Fill rest (f :: fs) (f.chars ++ gap)

/-- The fillers make up the gaps in front of the tokens, one list for the gap of each: the first
gap starts at the offset `n`, and every other where the token before it ends. -/
inductive Filler.FillGaps (source : List Char) :
    (n : Nat) → List Token → (gaps : List (List Filler)) → Prop where
  | nil {n : Nat} : Filler.FillGaps source n [] []
  | cons {n : Nat} {t : Token} {ts : List Token} {fs : List Filler} {gaps : List (List Filler)}
      (hfs : Filler.Fill (source.drop t.offset) fs (slice source n t.offset))
      (hgaps : Filler.FillGaps source t.endOffset ts gaps) :
      Filler.FillGaps source n (t :: ts) (fs :: gaps)

theorem Filler.FillGaps.prepend {source rest : List Char} {n : Nat} {f : Filler} {t : Token}
    {ts : List Token} {fs : List Filler} {gaps : List (List Filler)} (hf : f.FitsBefore rest)
    (hsource : source.drop n = f.chars ++ rest) (hle : n + f.chars.length ≤ t.offset)
    (h : Filler.FillGaps source (n + f.chars.length) (t :: ts) (fs :: gaps)) :
    Filler.FillGaps source n (t :: ts) ((f :: fs) :: gaps) := by
  have hdrop : source.drop (n + f.chars.length) = rest := by
    rw [← List.drop_drop, hsource, List.drop_left]
  have hgap : slice source n t.offset = f.chars ++ slice source (n + f.chars.length) t.offset := by
    have hall : f.chars.take (t.offset - n) = f.chars := List.take_of_length_le (by omega)
    rw [slice, slice, hdrop, hsource, List.take_append, hall, Nat.sub_add_eq]
  cases h with
  | cons hfs hgaps =>
    refine .cons ?_ hgaps
    rw [hgap]
    refine .cons ?_ hfs
    rw [slice_append_drop hle, hdrop]
    exact hf

theorem Segmented.fillGaps {n : Nat} {cs before : List Char} {ts : List Token}
    {faults : List ScanFault} (h : Segmented n cs ts faults) (hn : before.length = n) :
    ∃ gaps, Filler.FillGaps (before ++ cs) n ts gaps ∧
      gaps.flatten.filterMap Filler.fault? = faults := by
  induction h generalizing before with
  | @stop n t hk ho hl =>
    refine ⟨[[]], .cons ?_ .nil, rfl⟩
    rw [ho, slice_self]
    exact .nil
  | @token n t rest ts faults hk ho hl h ih =>
    have hlen : (before ++ t.lexeme.toList).length = t.endOffset := by
      rw [List.length_append, hn, String.length_toList, Token.endOffset, ho]
    obtain ⟨gaps, hgaps, hfaults⟩ := ih hlen
    rw [List.append_assoc] at hgaps
    refine ⟨[] :: gaps, .cons ?_ hgaps, hfaults⟩
    rw [ho, slice_self]
    exact .nil
  | @filler n f rest ts faults hf h ih =>
    have hlen : (before ++ f.chars).length = n + f.chars.length := by
      rw [List.length_append, hn]
    obtain ⟨gaps, hgaps, hfaults⟩ := ih hlen
    rw [List.append_assoc] at hgaps
    have hdrop : (before ++ (f.chars ++ rest)).drop n = f.chars ++ rest := by
      rw [← hn, List.drop_left]
    -- There is a gap to put the filler in front of, since the end token has one at least.
    cases hfirst : hgaps with
    | nil =>
      obtain ⟨tokens, stop, hnil, _⟩ := h.ends
      exact absurd hnil (by simp)
    | @cons _ t _ fs gaps hfs hrest =>
      refine ⟨(f :: fs) :: gaps, hgaps.prepend hf hdrop (h.le_offset t List.mem_cons_self), ?_⟩
      rw [← hfaults, List.flatten_cons, List.cons_append, List.filterMap_cons, List.flatten_cons]
      cases f.fault? <;> rfl

/-! ## Whole scripts -/

/-- There is one end token, and it is the last one. -/
theorem scan_eq_append_stop (source : String) :
    ∃ stop, scan source = (scan source).filter (·.kind != .eof) ++ [stop] ∧
      stop.kind = .eof ∧ stop.lexeme = "" := by
  have hsegmented : Segmented 0 source.toList (scan source) (faultsOf (scanAll source)) :=
    segmented_findings .start source.toList
  obtain ⟨tokens, stop, hscan, hk, hl, _, hall⟩ := hsegmented.ends
  have htokens : tokens.filter (·.kind != .eof) = tokens := by
    rw [List.filter_eq_self]
    intro t ht
    exact bne_iff_ne.mpr (hall t ht).1
  refine ⟨stop, ?_, hk, hl⟩
  rw [hscan, List.filter_append, htokens, List.filter_cons_of_neg (by simp [hk]), List.filter_nil,
    List.append_nil]

/-- Scanning covers a script exactly once: with tokens in order, each the text at its place, with
filler in between, and with one end token after all of it. The errors are the faults of the
fillers, in order, and their reports are what is shown. -/
theorem scan_covers (file source : String) :
    ∃ (tokens : List Token) (stop : Token) (gaps : List (List Filler)),
      scan source = tokens ++ [stop] ∧
      stop.kind = .eof ∧ stop.lexeme = "" ∧ stop.offset = source.length ∧
      (∀ t ∈ tokens, t.kind ≠ .eof ∧ t.lexeme ≠ "" ∧
        slice source.toList t.offset t.endOffset = t.lexeme.toList) ∧
      (tokens ++ [stop]).Pairwise (fun t u => t.endOffset ≤ u.offset) ∧
      Filler.FillGaps source.toList 0 (tokens ++ [stop]) gaps ∧
      (scanErrors source).map ScanError.fault = gaps.flatten.filterMap Filler.fault? ∧
      (Script.scanNotices file source).filterMap Notice.line? =
        (scanErrors source).map ScanError.report := by
  have hsegmented : Segmented 0 source.toList (scan source) (faultsOf (scanAll source)) :=
    segmented_findings .start source.toList
  obtain ⟨tokens, stop, hscan, hk, hl, ho, hall⟩ := hsegmented.ends
  obtain ⟨gaps, hgaps, hfaults⟩ := hsegmented.fillGaps List.length_nil
  have htext := hsegmented.slice_eq_lexeme List.length_nil
  have hpairwise := hsegmented.pairwise
  rw [hscan] at hgaps htext hpairwise
  refine ⟨tokens, stop, gaps, hscan, hk, hl, ?_, ?_, hpairwise, hgaps, hfaults.symm, ?_⟩
  · rw [ho, Nat.zero_add, String.length_toList]
  · intro t ht
    exact ⟨(hall t ht).1, (hall t ht).2, htext t (List.mem_append_left _ ht)⟩
  · rw [Script.scanNotices, List.filterMap_map]
    exact congrFun List.filterMap_eq_map _

end RiftScript
