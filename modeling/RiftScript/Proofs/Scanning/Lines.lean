/-
Scanning line by line.

A newline ends every piece except a text or a comment that is still open. To all others a newline
behind them is what the end of the script is. So a script that leaves nothing open can be scanned
apart from the lines that follow it, and what is found in those only moves down. That is why the
lines of a session can be kept and scanned together later on.
-/
import RiftScript.Proofs.Scanning.Positions
import RiftScript.Proofs.Scanning.Rescanning

namespace RiftScript

/-! ## Open ends -/

/-- The stretch has no end of its own. -/
def ScanFault.isUnterminated : ScanFault → Bool
  | openString | openComment => true
  | unexpected _ => false

namespace Piece

def fault? : Piece → Option ScanFault
  | fault why _ => some why
  | blank _ | comment _ | token _ _ => none

/-- The piece has an end of its own. -/
def isClosed (piece : Piece) : Bool :=
  !(piece.fault?.any ScanFault.isUnterminated)

/-! ## A newline behind a piece -/

section Newline

variable {p : Char → Bool} (cs rest : List Char)

theorem takeWhile_append_newline (hp : p '\n' = false) :
    (cs ++ '\n' :: rest).takeWhile p = cs.takeWhile p := by
  induction cs with
  | nil => exact List.takeWhile_cons_of_neg (by simp [hp])
  | cons c cs ih =>
    rw [List.cons_append, List.takeWhile_cons, List.takeWhile_cons, ih]

theorem dropWhile_append_newline (hp : p '\n' = false) :
    (cs ++ '\n' :: rest).dropWhile p = cs.dropWhile p ++ '\n' :: rest := by
  induction cs with
  | nil => exact List.dropWhile_cons_of_neg (by simp [hp])
  | cons c cs ih =>
    rw [List.cons_append, List.dropWhile_cons, List.dropWhile_cons, ih]
    split <;> rfl

theorem head?_append_newline {c : Char} (hc : c ≠ '\n') :
    (cs ++ '\n' :: rest).head? = some c ↔ cs.head? = some c := by
  cases cs with
  | nil => simp [hc.symm]
  | cons d cs => rfl

theorem numberChars_append_newline : numberChars (cs ++ '\n' :: rest) = numberChars cs := by
  have hnewline : Text.isAsciiDigit '\n' = false := by decide
  rw [numberChars, numberChars, takeWhile_append_newline cs rest hnewline,
    dropWhile_append_newline cs rest hnewline]
  cases cs.dropWhile Text.isAsciiDigit with
  | nil => rfl
  | cons c more =>
    by_cases hc : c = '.'
    · subst hc
      simp only [List.cons_append, takeWhile_append_newline more rest hnewline]
    · rw [List.cons_append]
      split
      · next heq =>
        exact absurd (List.cons.inj heq).1 hc
      · split
        · next heq => exact absurd (List.cons.inj heq).1 hc
        · rfl

end Newline

theorem commentBody_append {cs body : List Char} (h : commentBody cs = some body)
    (rest : List Char) : commentBody (cs ++ rest) = some body := by
  induction cs generalizing body with
  | nil => cases h
  | cons c cs ih =>
    rw [commentBody] at h
    rw [List.cons_append, commentBody]
    by_cases hclose : c = '*' ∧ cs.head? = some '/'
    · rw [if_pos hclose] at h
      have hslash : (cs ++ rest).head? = some '/' := by
        rw [List.head?_append, hclose.2, Option.some_or]
      rw [if_pos ⟨hclose.1, hslash⟩, h]
    · rw [if_neg hclose] at h
      obtain ⟨inner, hinner, rfl⟩ := Option.map_eq_some_iff.mp h
      have hne : cs ≠ [] := by
        intro hnil
        rw [hnil] at hinner
        cases hinner
      have hopen : ¬ (c = '*' ∧ (cs ++ rest).head? = some '/') := by
        obtain ⟨d, ds, rfl⟩ := List.exists_cons_of_ne_nil hne
        exact hclose
      rw [if_neg hopen, ih hinner, Option.map_some]

theorem takeWhile_bne_append {a : Char} {cs : List Char} (h : a ∈ cs) (rest : List Char) :
    (cs ++ rest).takeWhile (· != a) = cs.takeWhile (· != a) := by
  induction cs with
  | nil => cases h
  | cons c cs ih =>
    rw [List.cons_append, List.takeWhile_cons, List.takeWhile_cons]
    by_cases hc : c = a
    · simp [hc]
    · have hmem : a ∈ cs := (List.mem_cons.mp h).resolve_left (Ne.symm hc)
      rw [ih hmem]

theorem operator_append_newline (c : Char) (cs rest : List Char) :
    operator c (cs ++ '\n' :: rest) = operator c cs := by
  simp only [operator, head?_append_newline cs rest (c := '=') (by decide)]

/-- A newline behind the text changes nothing about its first piece, unless that is open. -/
theorem cut_append_newline {c : Char} {cs : List Char} (h : (cut c cs).isClosed = true)
    (rest : List Char) : cut c (cs ++ '\n' :: rest) = cut c cs := by
  have hslash := head?_append_newline cs rest (c := '/') (by decide)
  have hstar := head?_append_newline cs rest (c := '*') (by decide)
  have hword := takeWhile_append_newline cs rest (p := Text.extendsName) (by decide)
  have hline := takeWhile_append_newline cs rest (p := (· != '\n')) (by decide)
  have hnumber := numberChars_append_newline (c :: cs) rest
  rw [List.cons_append] at hnumber
  unfold cut at h ⊢
  simp only [hslash, hstar, hword, hline, hnumber, operator_append_newline]
  split
  · rfl
  split
  · rfl
  split
  · next hgap hcomment hopen =>
    rw [if_neg hgap, if_neg hcomment, if_pos hopen] at h
    obtain ⟨inner, rfl⟩ := List.head?_eq_some_iff.mp hopen.2
    rw [List.tail_cons] at h
    rw [List.cons_append, List.tail_cons, List.tail_cons]
    cases hbody : commentBody inner with
    | some body => rw [commentBody_append hbody]
    | none =>
      rw [hbody] at h
      cases h
  split
  · next hgap hcomment hopen hquote =>
    rw [if_neg hgap, if_neg hcomment, if_neg hopen, if_pos hquote] at h
    cases hclosed : cs.contains '"' with
    | true =>
      have hmem : '"' ∈ cs := List.contains_iff_mem.mp hclosed
      have hstill : (cs ++ '\n' :: rest).contains '"' = true :=
        List.contains_iff_mem.mpr (List.mem_append_left _ hmem)
      rw [hstill, if_pos rfl, if_pos rfl, takeWhile_bne_append hmem]
    | false =>
      rw [hclosed] at h
      cases h
  · rfl

/-- A text without open ends is cut the same with more lines behind it. -/
theorem all_append_newline {cs : List Char} (h : ∀ piece ∈ all cs, piece.isClosed = true)
    (rest : List Char) : all (cs ++ '\n' :: rest) = all cs ++ blank '\n' :: all rest := by
  induction cs using cut_induction with
  | nil => exact all_of_isGap rfl rest
  | cons c cs more hcs hall ih =>
    rw [hall] at h ⊢
    obtain ⟨hfirst, hmore⟩ := List.forall_mem_cons.mp h
    have hcut := cut_append_newline hfirst rest
    have hne : (cut c (cs ++ '\n' :: rest)).chars ≠ [] := (cut_splits c _).1
    have hsplit : c :: (cs ++ '\n' :: rest) =
        (cut c (cs ++ '\n' :: rest)).chars ++ (more ++ '\n' :: rest) := by
      rw [hcut, ← List.append_assoc, ← hcs, List.cons_append]
    rw [List.cons_append, all_cons hne hsplit, hcut, ih hmore, List.cons_append]

theorem flatMap_chars_all (cs : List Char) : (all cs).flatMap chars = cs := by
  induction cs using cut_induction with
  | nil => rfl
  | cons c cs rest hcs hall ih => rw [hall, List.flatMap_cons, ih, ← hcs]

end Piece

/-! ## Moving down -/

/-- So many lines further down, and so many characters further on. -/
def Position.moveDown (lines chars : Nat) (p : Position) : Position :=
  { p with line := p.line + lines, offset := p.offset + chars }

def Token.moveDown (lines chars : Nat) (t : Token) : Token :=
  { t with line := t.line + lines, offset := t.offset + chars }

def ScanError.moveDown (lines : Nat) (e : ScanError) : ScanError :=
  { e with line := e.line + lines }

def Finding.moveDown (lines chars : Nat) : Finding → Finding
  | token t => token (t.moveDown lines chars)
  | error e => error (e.moveDown lines)

section MoveDown

variable (lines chars : Nat) (p : Position)

theorem Position.after_moveDown (c : Char) :
    (p.moveDown lines chars).after c = (p.after c).moveDown lines chars := by
  by_cases hc : c = '\n'
  · simp only [after, moveDown, if_pos hc, Nat.add_right_comm]
  · simp only [after, moveDown, if_neg hc, Nat.add_right_comm]

theorem Position.afterAll_moveDown (cs : List Char) :
    (p.moveDown lines chars).afterAll cs = (p.afterAll cs).moveDown lines chars := by
  induction cs generalizing p with
  | nil => rfl
  | cons c cs ih =>
    show ((p.moveDown lines chars).after c).afterAll cs = ((p.after c).afterAll cs).moveDown _ _
    rw [after_moveDown, ih]

theorem Token.place_moveDown (kind : TokenKind) (cs : List Char) :
    place (p.moveDown lines chars) kind cs = (place p kind cs).moveDown lines chars := by
  simp [place, moveDown, Position.moveDown]

theorem Piece.finding?_moveDown (piece : Piece) :
    piece.finding? (p.moveDown lines chars) =
      (piece.finding? p).map (Finding.moveDown lines chars) := by
  cases piece with
  | token kind cs => simp [finding?, Finding.moveDown, Token.place_moveDown]
  | fault why cs => simp [finding?, Finding.moveDown, ScanError.moveDown, Position.moveDown]
  | _ => rfl

theorem findings_moveDown (pieces : List Piece) :
    findings (p.moveDown lines chars) pieces =
      (findings p pieces).map (Finding.moveDown lines chars) := by
  induction pieces generalizing p with
  | nil => simp [findings, Finding.moveDown, Token.place_moveDown]
  | cons piece pieces ih =>
    rw [findings, findings, List.map_append, piece.finding?_moveDown, Position.afterAll_moveDown,
      ih]
    cases piece.finding? p <;> rfl

theorem Finding.token?_moveDown (f : Finding) :
    (f.moveDown lines chars).token? = f.token?.map (Token.moveDown lines chars) := by
  cases f <;> rfl

theorem Finding.error?_moveDown (f : Finding) :
    (f.moveDown lines chars).error? = f.error?.map (ScanError.moveDown lines) := by
  cases f <;> rfl

/-- What is picked from the findings moves down with them. -/
theorem filterMap_moveDown {β : Type} {pick : Finding → Option β} {move : β → β}
    (hpick : ∀ f, pick (f.moveDown lines chars) = (pick f).map move) (fs : List Finding) :
    (fs.map (Finding.moveDown lines chars)).filterMap pick = (fs.filterMap pick).map move := by
  rw [List.filterMap_map, List.map_filterMap]
  congr 1
  funext f
  exact hpick f

end MoveDown

/-! ## Whole scripts -/

theorem findings_ne_nil (p : Position) (pieces : List Piece) : findings p pieces ≠ [] := by
  intro hnil
  apply filterMap_token?_findings_ne_nil p pieces
  rw [hnil, List.filterMap_nil]

theorem findings_append (p : Position) (xs ys : List Piece) :
    findings p (xs ++ ys) =
      (findings p xs).dropLast ++ findings (p.afterAll (xs.flatMap Piece.chars)) ys := by
  induction xs generalizing p with
  | nil => rfl
  | cons piece xs ih =>
    have hdrop : ((piece.finding? p).toList ++ findings (p.afterAll piece.chars) xs).dropLast =
        (piece.finding? p).toList ++ (findings (p.afterAll piece.chars) xs).dropLast :=
      List.dropLast_append_of_ne_nil (findings_ne_nil _ _)
    rw [List.cons_append, findings, findings, ih, hdrop, List.append_assoc, List.flatMap_cons,
      Position.afterAll_append]

theorem scanAll_eq_append_stop (source : String) :
    ∃ stop, scanAll source = (scanAll source).dropLast ++ [.token stop] := by
  have hfindings := findings_append .start (Piece.all source.toList) []
  rw [List.append_nil] at hfindings
  exact ⟨_, hfindings⟩

theorem faultsOf_findings (p : Position) (pieces : List Piece) :
    faultsOf (findings p pieces) = pieces.filterMap Piece.fault? := by
  induction pieces generalizing p with
  | nil => rfl
  | cons piece pieces ih =>
    rw [findings, faultsOf, List.filterMap_append, List.map_append]
    show _ ++ faultsOf _ = _
    rw [ih]
    cases piece <;> rfl

theorem isClosed_of_scanErrors {source : String}
    (h : ∀ e ∈ scanErrors source, e.fault.isUnterminated = false) :
    ∀ piece ∈ Piece.all source.toList, piece.isClosed = true := by
  intro piece hpiece
  rw [Piece.isClosed, Bool.not_eq_true', Option.any_eq_false]
  intro why hwhy
  have hmem : why ∈ faultsOf (scanAll source) := by
    rw [scanAll, faultsOf_findings]
    exact List.mem_filterMap.mpr ⟨piece, hpiece, hwhy⟩
  obtain ⟨e, he, rfl⟩ := List.mem_map.mp hmem
  simp [h e he]

theorem Position.after_newline (cs : List Char) :
    (start.afterAll cs).after '\n' = start.moveDown (1 + cs.count '\n') (cs.length + 1) := by
  rw [afterAll_start (List.append_nil cs), ofOffset, List.take_length]
  simp only [after, if_true, moveDown, start]
  congr 1 <;> omega

theorem scanAll_append_newline {a : String} (b : String)
    (h : ∀ e ∈ scanErrors a, e.fault.isUnterminated = false) :
    scanAll (a ++ "\n" ++ b) = (scanAll a).dropLast ++
      (scanAll b).map (Finding.moveDown (1 + a.toList.count '\n') (a.length + 1)) := by
  have htext : (a ++ "\n" ++ b).toList = a.toList ++ '\n' :: b.toList := by
    rw [String.toList_append, String.toList_append, List.append_assoc]
    rfl
  rw [scanAll, htext, Piece.all_append_newline (isClosed_of_scanErrors h), findings_append,
    Piece.flatMap_chars_all]
  show _ ++ findings ((Position.start.afterAll a.toList).after '\n') (Piece.all b.toList) = _
  rw [Position.after_newline, findings_moveDown, String.length_toList]
  rfl

theorem filterMap_token?_dropLast (source : String) :
    (scanAll source).dropLast.filterMap Finding.token? =
      (scan source).filter (·.kind != .eof) := by
  obtain ⟨stop, hscan, _⟩ := scan_eq_append_stop source
  obtain ⟨last, hlast⟩ := scanAll_eq_append_stop source
  have htokens := congrArg (List.filterMap Finding.token?) hlast
  rw [List.filterMap_append] at htokens
  exact (List.append_inj' (htokens.symm.trans hscan) rfl).1

theorem filterMap_error?_dropLast (source : String) :
    (scanAll source).dropLast.filterMap Finding.error? = scanErrors source := by
  obtain ⟨last, hlast⟩ := scanAll_eq_append_stop source
  have herrors := congrArg (List.filterMap Finding.error?) hlast
  rw [List.filterMap_append] at herrors
  exact (herrors.trans (List.append_nil _)).symm

/-- Scripts can be scanned line by line. If nothing is left open at the end of `a`, then with `b` on
the lines below it the tokens and errors of `a` stay what they are, and those of `b` move down. -/
theorem scan_append_newline (a b : String)
    (h : ∀ e ∈ scanErrors a, e.fault.isUnterminated = false) :
    let lines := 1 + a.toList.count '\n'
    scan (a ++ "\n" ++ b) =
        (scan a).filter (·.kind != .eof) ++ (scan b).map (Token.moveDown lines (a.length + 1)) ∧
      scanErrors (a ++ "\n" ++ b) =
        scanErrors a ++ (scanErrors b).map (ScanError.moveDown lines) := by
  intro lines
  constructor
  · rw [scan, scanAll_append_newline b h, List.filterMap_append, filterMap_token?_dropLast,
      filterMap_moveDown _ _ (Finding.token?_moveDown _ _)]
    rfl
  · rw [scanErrors, scanAll_append_newline b h, List.filterMap_append, filterMap_error?_dropLast,
      filterMap_moveDown _ _ (Finding.error?_moveDown _ _)]
    rfl

/-- An operator is cut off by the newline, and the line below starts with what would extend it. -/
theorem scan_append_newline_cut_operator :
    (∀ e ∈ scanErrors "hp @\n1 <", e.fault.isUnterminated = false) ∧
      scan ("hp @\n1 <" ++ "\n" ++ "= 2 /* z") =
        (scan "hp @\n1 <").filter (·.kind != .eof) ++
          (scan "= 2 /* z").map (Token.moveDown 2 9) ∧
      scanErrors ("hp @\n1 <" ++ "\n" ++ "= 2 /* z") =
        scanErrors "hp @\n1 <" ++ (scanErrors "= 2 /* z").map (ScanError.moveDown 2) := by
  have h : ∀ e ∈ scanErrors "hp @\n1 <", e.fault.isUnterminated = false := by decide +kernel
  exact ⟨h, scan_append_newline "hp @\n1 <" "= 2 /* z" h⟩

end RiftScript
