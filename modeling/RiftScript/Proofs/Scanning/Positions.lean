/-
Where tokens and errors stand.

Scanning counts lines and columns along the way, one character at a time. `Position.ofOffset` counts
them from the text in front of an offset instead. The two agree at every piece, so each token stands
at the place of its offset, and each error at the place where its filler starts. Which filler that
is follows from how tokens and fillers cover the script.
-/
import RiftScript.Proofs.Scanning.Segmentation

namespace RiftScript

namespace Position

/-- The place of an offset, counted from the text in front of it: lines by its newlines, and columns
by the characters that follow the last of them. -/
def ofOffset (source : List Char) (n : Nat) : Position where
  line := 1 + (source.take n).count '\n'
  column := 1 + ((source.take n).reverse.takeWhile (· != '\n')).length
  offset := n

theorem afterAll_append (p : Position) (cs ds : List Char) :
    p.afterAll (cs ++ ds) = (p.afterAll cs).afterAll ds :=
  List.foldl_append

/-- The text is given back to front, so that the last character is the first one to look at. -/
theorem afterAll_reverse (cs : List Char) :
    start.afterAll cs.reverse =
      ⟨1 + cs.count '\n', 1 + (cs.takeWhile (· != '\n')).length, cs.length⟩ := by
  induction cs with
  | nil => rfl
  | cons c cs ih =>
    rw [List.reverse_cons, afterAll_append, ih]
    show after _ c = _
    by_cases hc : c = '\n'
    · subst hc
      simp [after, Nat.add_assoc]
    · simp [after, hc, Nat.add_comm]

theorem afterAll_start {before cs source : List Char} (h : before ++ cs = source) :
    start.afterAll before = ofOffset source before.length := by
  have htake : source.take before.length = before := by
    rw [← h, List.take_left]
  have hcount := afterAll_reverse before.reverse
  rw [List.reverse_reverse, List.count_reverse, List.length_reverse] at hcount
  rw [ofOffset, htake, hcount]

end Position

/-! ## Fillers and their offsets -/

namespace Filler

/-- The fillers of a gap that starts at the offset `n`, each with the offset it starts at. -/
def spots (n : Nat) : List Filler → List (Nat × Filler)
  | [] => []
  | f :: fs => (n, f) :: spots (n + f.chars.length) fs

/-- The fillers of all gaps. The first gap starts at the offset `n`, and every other where the token
before it ends. -/
def spotsOfGaps (n : Nat) : List Token → List (List Filler) → List (Nat × Filler)
  | t :: ts, fs :: gaps => spots n fs ++ spotsOfGaps t.endOffset ts gaps
  | _, _ => []

/-- The error about a filler, if something is wrong with it, at the place where it starts. -/
def error? (source : List Char) (spot : Nat × Filler) : Option ScanError :=
  spot.2.fault?.map fun why =>
    ⟨why, (Position.ofOffset source spot.1).line, (Position.ofOffset source spot.1).column⟩

end Filler

/-- The token stands at the place of its offset. -/
def Token.IsPlaced (source : List Char) (t : Token) : Prop :=
  t.line = (Position.ofOffset source t.offset).line ∧
    t.column = (Position.ofOffset source t.offset).column

/-- The findings are placed: the fillers `gaps` fill what the tokens leave of the source from the
offset `n` on, the tokens stand at the places of their offsets, and the errors at those of the
fillers. -/
structure Placed (source : List Char) (n : Nat) (fs : List Finding) (gaps : List (List Filler)) :
    Prop where
  fillGaps : Filler.FillGaps source n (fs.filterMap Finding.token?) gaps
  tokens : ∀ t ∈ fs.filterMap Finding.token?, n ≤ t.offset ∧ t.IsPlaced source
  spots : ∀ spot ∈ Filler.spotsOfGaps n (fs.filterMap Finding.token?) gaps,
    spot.2.chars <+: source.drop spot.1
  errors : fs.filterMap Finding.error? =
    (Filler.spotsOfGaps n (fs.filterMap Finding.token?) gaps).filterMap (Filler.error? source)

namespace Placed

variable {source : List Char} {n : Nat} {fs : List Finding} {gaps : List (List Filler)}

theorem nil : Placed source n [] [] where
  fillGaps := .nil
  tokens := fun _ h => by cases h
  spots := fun _ h => by cases h
  errors := rfl

theorem token {t : Token} (h : Placed source t.endOffset fs gaps) (ht : t.IsPlaced source) :
    Placed source t.offset (.token t :: fs) ([] :: gaps) where
  fillGaps := by
    refine .cons ?_ h.fillGaps
    rw [slice_self]
    exact .nil
  tokens := by
    intro u hu
    rcases List.mem_cons.mp hu with rfl | hu
    · exact ⟨Nat.le_refl _, ht⟩
    · have hle := (h.tokens u hu).1
      rw [Token.endOffset] at hle
      exact ⟨by omega, (h.tokens u hu).2⟩
  spots := h.spots
  errors := h.errors

/-- The filler goes into the gap in front of the first token. -/
theorem filler {f : Filler} {rest : List Char} {t : Token} {ts : List Token}
    (h : Placed source (n + f.chars.length) fs gaps) (hts : fs.filterMap Finding.token? = t :: ts)
    (hf : f.FitsBefore rest) (hsource : source.drop n = f.chars ++ rest) :
    ∃ gaps, Placed source n
      ((f.piece.finding? (Position.ofOffset source n)).toList ++ fs) gaps := by
  have htokens : ((f.piece.finding? (Position.ofOffset source n)).toList ++ fs).filterMap
      Finding.token? = fs.filterMap Finding.token? := by
    rw [f.finding?_piece]
    cases f.fault? <;> rfl
  have herrors : ((f.piece.finding? (Position.ofOffset source n)).toList ++ fs).filterMap
      Finding.error? = (Filler.error? source (n, f)).toList ++ fs.filterMap Finding.error? := by
    rw [f.finding?_piece, Filler.error?]
    cases f.fault? <;> rfl
  have hle : n + f.chars.length ≤ t.offset := (h.tokens t (by simp [hts])).1
  have hfill := h.fillGaps
  rw [hts] at hfill
  cases hgap : hfill with
  | @cons _ _ _ gap gaps _ _ =>
    refine ⟨(f :: gap) :: gaps, ⟨?_, ?_, ?_, ?_⟩⟩
    · rw [htokens, hts]
      exact hfill.prepend hf hsource hle
    · rw [htokens]
      intro u hu
      exact ⟨Nat.le_trans (Nat.le_add_right _ _) (h.tokens u hu).1, (h.tokens u hu).2⟩
    · have hspots := h.spots
      rw [hts] at hspots
      rw [htokens, hts]
      intro spot hspot
      rcases List.mem_cons.mp hspot with rfl | hspot
      · exact ⟨rest, hsource.symm⟩
      · exact hspots spot hspot
    · have hmore := h.errors
      rw [hts] at hmore
      rw [herrors, htokens, hts, hmore]
      show _ = ((n, f) :: _).filterMap _
      rw [List.filterMap_cons]
      cases Filler.error? source (n, f) <;> rfl

end Placed

/-- The end token is always found. -/
theorem filterMap_token?_findings_ne_nil (p : Position) (pieces : List Piece) :
    (findings p pieces).filterMap Finding.token? ≠ [] := by
  induction pieces generalizing p with
  | nil => exact List.cons_ne_nil _ _
  | cons piece pieces ih =>
    rw [findings, List.filterMap_append]
    exact List.append_ne_nil_of_right_ne_nil _ (ih _)

theorem placed_findings {source : List Char} (cs before : List Char) (h : before ++ cs = source) :
    ∃ gaps, Placed source before.length (findings (Position.start.afterAll before) (Piece.all cs))
      gaps := by
  induction cs using Piece.all_induction generalizing before with
  | nil =>
    rw [Position.afterAll_start h]
    exact ⟨[[]], .token (t := Token.place (.ofOffset source before.length) .eof []) .nil ⟨rfl, rfl⟩⟩
  | token kind chars rest hk hne ih =>
    have hbefore : (before ++ chars) ++ rest = source := by rw [List.append_assoc, h]
    obtain ⟨gaps, hplaced⟩ := ih (before ++ chars) hbefore
    have hend : (Token.place (.ofOffset source before.length) kind chars).endOffset =
        (before ++ chars).length := by
      rw [List.length_append, Token.endOffset, ← String.length_toList]
      exact congrArg (before.length + List.length ·) String.toList_ofList
    rw [← hend, Position.afterAll_append, Position.afterAll_start h] at hplaced
    rw [Position.afterAll_start h]
    exact ⟨[] :: gaps, hplaced.token ⟨rfl, rfl⟩⟩
  | filler f rest hf ih =>
    have hbefore : (before ++ f.chars) ++ rest = source := by rw [List.append_assoc, h]
    obtain ⟨gaps, hplaced⟩ := ih (before ++ f.chars) hbefore
    obtain ⟨t, ts, hts⟩ := List.exists_cons_of_ne_nil
      (filterMap_token?_findings_ne_nil (Position.start.afterAll (before ++ f.chars))
        (Piece.all rest))
    have hdrop : source.drop before.length = f.chars ++ rest := by
      rw [← h, List.drop_left]
    rw [List.length_append] at hplaced
    rw [findings, f.chars_piece, ← Position.afterAll_append, Position.afterAll_start h]
    exact hplaced.filler hts hf hdrop

/-! ## Whole scripts -/

/-- Every token of a script, the end token too, stands at the place of its offset. The errors are
those of the fillers between the tokens, in order, each at the place where its filler starts: at
the character that was not expected, at the opening quote, or at the mark that opens the comment. -/
theorem scan_places (source : String) :
    (∀ t ∈ scan source, t.IsPlaced source.toList) ∧
      ∃ gaps, Filler.FillGaps source.toList 0 (scan source) gaps ∧
        (∀ spot ∈ Filler.spotsOfGaps 0 (scan source) gaps,
          spot.2.chars <+: source.toList.drop spot.1) ∧
        scanErrors source =
          (Filler.spotsOfGaps 0 (scan source) gaps).filterMap (Filler.error? source.toList) := by
  obtain ⟨gaps, hplaced⟩ := placed_findings source.toList [] rfl
  exact ⟨fun t ht => (hplaced.tokens t ht).2, gaps, hplaced.fillGaps, hplaced.spots, hplaced.errors⟩

end RiftScript
