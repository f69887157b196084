/-
Tokens and what lies between them.

A piece of a script is a token or it is filler. What counts as filler is said here by what it
looks like and by what may follow it, and not by the order in which `Piece.cut` tries its cases: a
comment to the end of a line, for example, goes on as far as that line does. Text that starts a
token or a comment and never ends it is filler too, and nothing follows it.

`cut_cases` says what the first piece of a text can be and `all_induction` carries that over to all
of its pieces.
-/
import RiftScript.Token.Scan

namespace RiftScript

/-- Text that belongs to no token. The marks around the text of a comment are not kept. -/
inductive Filler where
  | blank (c : Char)
  | lineComment (text : List Char)
  | blockComment (text : List Char)
  | unexpected (c : Char)
  | openString (text : List Char)
  | openComment (text : List Char)
deriving Repr, DecidableEq

namespace Filler

def chars : Filler → List Char
  | blank c => [c]
  | lineComment text => '/' :: '/' :: text
  | blockComment text => '/' :: '*' :: text ++ ['*', '/']
  | unexpected c => [c]
  | openString text => '"' :: text
  | openComment text => '/' :: '*' :: text

def blanks : List Char :=
  [' ', '\t', '\r', '\n']

def operatorSigns : List Char :=
  ['(', ')', '{', '}', ',', '.', ';', '%', '+', '-', '*', '/', '!', '=', '<', '>']

/-- A token starts with a quote, a digit, a letter, an underscore or the sign of an operator. -/
def opensToken (c : Char) : Bool :=
  c == '"' || Text.isAsciiDigit c || Text.opensName c || operatorSigns.contains c

/-- The filler is what it is called, where `rest` is all that follows it. A comment closes at the
first mark that can close it. -/
def FitsBefore (rest : List Char) : Filler → Prop
  | blank c => c ∈ blanks
  | lineComment text => '\n' ∉ text ∧ (rest = [] ∨ rest.head? = some '\n')
  | blockComment text => ¬ ['*', '/'] <:+: text ++ ['*']
  | unexpected c => c ∉ blanks ∧ opensToken c = false
  | openString text => '"' ∉ text ∧ rest = []
  | openComment text => ¬ ['*', '/'] <:+: text ∧ rest = []

/-- What is wrong with the filler, if anything. -/
def fault? : Filler → Option ScanFault
  | unexpected c => some (.unexpected c)
  | openString _ => some .openString
  | openComment _ => some .openComment
  | blank _ | lineComment _ | blockComment _ => none

/-- The piece that a filler makes. -/
def piece (f : Filler) : Piece :=
  match f with
  | blank c => .blank c
  | lineComment _ | blockComment _ => .comment f.chars
  | unexpected c => .fault (.unexpected c) f.chars
  | openString _ => .fault .openString f.chars
  | openComment _ => .fault .openComment f.chars

theorem chars_piece (f : Filler) : f.piece.chars = f.chars := by
  cases f <;> rfl

theorem chars_ne_nil (f : Filler) : f.chars ≠ [] := by
  cases f <;> exact List.cons_ne_nil _ _

theorem finding?_piece (p : Position) (f : Filler) :
    f.piece.finding? p = f.fault?.map fun why => .error ⟨why, p.line, p.column⟩ := by
  cases f <;> rfl

end Filler

/-! ## Kinds of tokens -/

namespace TokenKind

theorem ofWord_ne_eof (word : String) : ofWord word ≠ eof := by
  have hall : ∀ entry ∈ keywords, entry.2 ≠ eof := by decide
  rw [ofWord]
  cases h : keywords.lookup word with
  | none => decide
  | some kind =>
    obtain ⟨before, after, heq, _⟩ := List.lookup_eq_some_iff.mp h
    exact hall (word, kind) (by simp [heq])

end TokenKind

namespace Piece

theorem extensible_ne_eof {c : Char} {alone withEqual : TokenKind}
    (h : extensible c = some (alone, withEqual)) : alone ≠ .eof ∧ withEqual ≠ .eof := by
  unfold extensible at h
  split at h <;> cases h <;> decide

theorem punctuation_ne_eof {c : Char} {kind : TokenKind} (h : punctuation c = some kind) :
    kind ≠ .eof := by
  unfold punctuation at h
  split at h <;> cases h <;> decide

theorem operatorSigns_of_none {c : Char} (he : extensible c = none) (hp : punctuation c = none) :
    c ∉ Filler.operatorSigns := by
  intro hc
  simp only [Filler.operatorSigns, List.mem_cons, List.not_mem_nil, or_false] at hc
  rcases hc with rfl | rfl | rfl | rfl | rfl | rfl | rfl | rfl | rfl | rfl | rfl | rfl | rfl |
    rfl | rfl | rfl
  all_goals first | exact absurd hp (by decide) | exact absurd he (by decide)

theorem isGap_iff {c : Char} : isGap c = true ↔ c ∈ Filler.blanks := by
  simp [isGap, Filler.blanks, or_assoc]

/-! ## How far a piece reaches -/

theorem commentBody_eq_some {cs body : List Char} (h : commentBody cs = some body) :
    ∃ text rest, body = text ++ ['*', '/'] ∧ cs = body ++ rest ∧
      ¬ ['*', '/'] <:+: text ++ ['*'] := by
  induction cs generalizing body with
  | nil => cases h
  | cons c cs ih =>
    rw [commentBody] at h
    split at h
    · next hclose =>
      cases h
      obtain ⟨rfl, hslash⟩ := hclose
      obtain ⟨rest, rfl⟩ := List.head?_eq_some_iff.mp hslash
      exact ⟨[], rest, rfl, rfl, by decide⟩
    · next hopen =>
      obtain ⟨inner, hinner, rfl⟩ := Option.map_eq_some_iff.mp h
      obtain ⟨text, rest, rfl, rfl, hno⟩ := ih hinner
      refine ⟨c :: text, rest, rfl, rfl, fun hin => ?_⟩
      rcases List.infix_cons_iff.mp hin with hpre | hin
      · obtain ⟨rfl, hslash⟩ := List.cons_prefix_cons.mp hpre
        refine hopen ⟨rfl, ?_⟩
        cases text with
        | nil => exact absurd hslash (by decide)
        | cons d text =>
          obtain ⟨rfl, _⟩ := List.cons_prefix_cons.mp hslash
          rfl
      · exact hno hin

theorem commentBody_eq_none {cs : List Char} (h : commentBody cs = none) :
    ¬ ['*', '/'] <:+: cs := by
  induction cs with
  | nil => decide
  | cons c cs ih =>
    rw [commentBody] at h
    split at h
    · cases h
    · next hopen =>
      intro hin
      rcases List.infix_cons_iff.mp hin with hpre | hin
      · obtain ⟨rfl, rest, rfl⟩ := List.cons_prefix_cons.mp hpre
        exact hopen ⟨rfl, rfl⟩
      · exact ih (Option.map_eq_none_iff.mp h) hin

theorem not_mem_takeWhile_bne {a : Char} (cs : List Char) : a ∉ cs.takeWhile (· != a) := by
  intro h
  have := List.all_takeWhile (p := (· != a)) (l := cs)
  rw [List.all_eq_true] at this
  simpa using this a h

theorem head?_dropWhile_bne {a : Char} (cs : List Char) :
    cs.dropWhile (· != a) = [] ∨ (cs.dropWhile (· != a)).head? = some a := by
  induction cs with
  | nil => exact .inl rfl
  | cons c cs ih =>
    by_cases hc : c = a
    · exact .inr (by simp [hc])
    · rw [List.dropWhile_cons_of_pos (by simpa using hc)]
      exact ih

theorem takeWhile_bne_of_mem {a : Char} {cs : List Char} (h : a ∈ cs) :
    ∃ rest, cs = cs.takeWhile (· != a) ++ a :: rest := by
  have hsplit : cs.takeWhile (· != a) ++ cs.dropWhile (· != a) = cs :=
    List.takeWhile_append_dropWhile
  rcases head?_dropWhile_bne (a := a) cs with hnil | hhead
  · rw [hnil, List.append_nil] at hsplit
    exact absurd (hsplit ▸ h) (not_mem_takeWhile_bne cs)
  · obtain ⟨rest, hrest⟩ := List.head?_eq_some_iff.mp hhead
    exact ⟨rest, by rw [← hrest, hsplit]⟩

/-- A number is not empty, and it is a stretch of the text. -/
theorem numberChars_cons {c : Char} (cs : List Char) (hc : Text.isAsciiDigit c = true) :
    ∃ digits rest, numberChars (c :: cs) = c :: digits ∧ cs = digits ++ rest := by
  have hwhole : (c :: cs).takeWhile Text.isAsciiDigit = c :: cs.takeWhile Text.isAsciiDigit :=
    List.takeWhile_cons_of_pos hc
  have hsplit : cs.takeWhile Text.isAsciiDigit ++ cs.dropWhile Text.isAsciiDigit = cs :=
    List.takeWhile_append_dropWhile
  rw [numberChars, hwhole, List.dropWhile_cons_of_pos hc]
  split
  · next rest hrest =>
    dsimp only
    split
    · exact ⟨_, '.' :: rest, rfl, by rw [← hrest, hsplit]⟩
    · refine ⟨cs.takeWhile Text.isAsciiDigit ++ '.' :: rest.takeWhile Text.isAsciiDigit,
        rest.dropWhile Text.isAsciiDigit, rfl, ?_⟩
      rw [List.append_assoc, List.cons_append, List.takeWhile_append_dropWhile, ← hrest, hsplit]
  · exact ⟨_, _, rfl, hsplit.symm⟩

/-! ## The first piece -/

/-- The text `cs` starts with the piece, which is a token. -/
def IsToken (cs : List Char) (piece : Piece) : Prop :=
  ∃ kind chars rest, piece = token kind chars ∧ cs = chars ++ rest ∧ kind ≠ .eof ∧ chars ≠ []

/-- The text `cs` starts with the piece, which is filler. -/
def IsFiller (cs : List Char) (piece : Piece) : Prop :=
  ∃ (f : Filler) (rest : List Char), piece = f.piece ∧ cs = f.chars ++ rest ∧ f.FitsBefore rest

theorem isFiller_lineComment {cs : List Char} (h : cs.head? = some '/') :
    IsFiller ('/' :: cs) (comment ('/' :: cs.takeWhile (· != '\n'))) := by
  obtain ⟨text, rfl⟩ := List.head?_eq_some_iff.mp h
  have hsplit : text.takeWhile (· != '\n') ++ text.dropWhile (· != '\n') = text :=
    List.takeWhile_append_dropWhile
  refine ⟨.lineComment (text.takeWhile (· != '\n')), text.dropWhile (· != '\n'), rfl, ?_, ?_⟩
  · rw [Filler.chars, List.cons_append, List.cons_append, hsplit]
  · exact ⟨not_mem_takeWhile_bne text, head?_dropWhile_bne text⟩

theorem isFiller_blockComment {cs body : List Char} (h : cs.head? = some '*')
    (hbody : commentBody cs.tail = some body) :
    IsFiller ('/' :: cs) (comment ('/' :: '*' :: body)) := by
  obtain ⟨inner, rfl⟩ := List.head?_eq_some_iff.mp h
  obtain ⟨text, rest, rfl, hrest, hno⟩ := commentBody_eq_some hbody
  refine ⟨.blockComment text, rest, rfl, ?_, hno⟩
  rw [List.tail_cons] at hrest
  rw [hrest]
  rfl

theorem isFiller_openComment {cs : List Char} (h : cs.head? = some '*')
    (hbody : commentBody cs.tail = none) : IsFiller ('/' :: cs) (fault .openComment ('/' :: cs)) := by
  obtain ⟨inner, rfl⟩ := List.head?_eq_some_iff.mp h
  exact ⟨.openComment inner, [], rfl, (List.append_nil _).symm, commentBody_eq_none hbody, rfl⟩

theorem isToken_string {cs : List Char} (h : cs.contains '"' = true) :
    IsToken ('"' :: cs) (token .string ('"' :: cs.takeWhile (· != '"') ++ ['"'])) := by
  obtain ⟨rest, hrest⟩ := takeWhile_bne_of_mem (List.contains_iff_mem.mp h)
  refine ⟨_, _, rest, rfl, ?_, by decide, List.cons_ne_nil _ _⟩
  rw [List.cons_append, List.cons_append, List.append_assoc, List.singleton_append, ← hrest]

theorem isFiller_openString {cs : List Char} (h : ¬ cs.contains '"' = true) :
    IsFiller ('"' :: cs) (fault .openString ('"' :: cs)) := by
  rw [List.contains_iff_mem] at h
  exact ⟨.openString cs, [], rfl, (List.append_nil _).symm, h, rfl⟩

theorem isToken_number {c : Char} {cs : List Char} (h : Text.isAsciiDigit c = true) :
    IsToken (c :: cs) (token .number (numberChars (c :: cs))) := by
  obtain ⟨digits, rest, hnumber, hcs⟩ := numberChars_cons cs h
  rw [hnumber, hcs]
  exact ⟨_, _, rest, rfl, rfl, by decide, List.cons_ne_nil _ _⟩

theorem isToken_word (c : Char) (cs : List Char) :
    IsToken (c :: cs) (token (TokenKind.ofWord (String.ofList (c :: cs.takeWhile Text.extendsName)))
      (c :: cs.takeWhile Text.extendsName)) := by
  refine ⟨_, _, cs.dropWhile Text.extendsName, rfl, ?_, TokenKind.ofWord_ne_eof _,
    List.cons_ne_nil _ _⟩
  rw [List.cons_append, List.takeWhile_append_dropWhile]

theorem operator_cases {c : Char} (cs : List Char) (hgap : c ∉ Filler.blanks) (hquote : c ≠ '"')
    (hdigit : ¬ Text.isAsciiDigit c = true) (hname : ¬ Text.opensName c = true) :
    IsToken (c :: cs) (operator c cs) ∨ IsFiller (c :: cs) (operator c cs) := by
  unfold operator
  split
  · next alone withEqual hext =>
    obtain ⟨halone, hwith⟩ := extensible_ne_eof hext
    split
    · next heq =>
      obtain ⟨rest, rfl⟩ := List.head?_eq_some_iff.mp heq
      exact .inl ⟨_, _, rest, rfl, rfl, hwith, List.cons_ne_nil _ _⟩
    · exact .inl ⟨_, _, cs, rfl, rfl, halone, List.cons_ne_nil _ _⟩
  · next hext =>
    split
    · next kind hpunct =>
      exact .inl ⟨_, _, cs, rfl, rfl, punctuation_ne_eof hpunct, List.cons_ne_nil _ _⟩
    · next hpunct =>
      refine .inr ⟨.unexpected c, cs, rfl, rfl, hgap, ?_⟩
      simp [Filler.opensToken, hquote, hdigit, hname, operatorSigns_of_none hext hpunct]

/-- The first piece of a text is a token or it is filler. -/
theorem cut_cases (c : Char) (cs : List Char) :
    IsToken (c :: cs) (cut c cs) ∨ IsFiller (c :: cs) (cut c cs) := by
  unfold cut
  split
  · next hgap => exact .inr ⟨.blank c, cs, rfl, rfl, isGap_iff.mp hgap⟩
  split
  · next hline =>
    obtain ⟨rfl, hline⟩ := hline
    exact .inr (isFiller_lineComment hline)
  split
  · next hblock =>
    obtain ⟨rfl, hblock⟩ := hblock
    split
    · next body hbody => exact .inr (isFiller_blockComment hblock hbody)
    · next hbody => exact .inr (isFiller_openComment hblock hbody)
  split
  · next hquote =>
    subst hquote
    split
    · next hclosed => exact .inl (isToken_string hclosed)
    · next hopen => exact .inr (isFiller_openString hopen)
  split
  · next hdigit => exact .inl (isToken_number hdigit)
  split
  · exact .inl (isToken_word c cs)
  · next hgap _ _ hquote hdigit hname =>
    exact operator_cases cs (mt isGap_iff.mpr hgap) hquote hdigit hname

/-! ## All pieces -/

theorem split_eq_all_drop (n : Nat) (cs : List Char) : split n cs = all (cs.drop n) := by
  induction cs generalizing n with
  | nil => simp [split, all]
  | cons c cs ih =>
    cases n with
    | zero => rfl
    | succ n =>
      rw [split, List.drop_succ_cons]
      exact ih n

theorem all_cons {c : Char} {cs rest : List Char} (hne : (cut c cs).chars ≠ [])
    (h : c :: cs = (cut c cs).chars ++ rest) : all (c :: cs) = cut c cs :: all rest := by
  have hdrop : cs.drop ((cut c cs).chars.length - 1) = rest := by
    have hpos : 0 < (cut c cs).chars.length := List.length_pos_iff.mpr hne
    have : (c :: cs).drop (cut c cs).chars.length = rest := by
      rw [h, List.drop_append_length]
    obtain ⟨n, hn⟩ : ∃ n, (cut c cs).chars.length = n + 1 := ⟨_, (Nat.succ_pred_eq_of_pos hpos).symm⟩
    rw [hn] at this ⊢
    exact this
  rw [all, split, split_eq_all_drop, hdrop]

/-- The first piece of a text is not empty, and it is a stretch of the text. -/
theorem cut_splits (c : Char) (cs : List Char) :
    (cut c cs).chars ≠ [] ∧ ∃ rest, c :: cs = (cut c cs).chars ++ rest := by
  rcases cut_cases c cs with ⟨kind, chars, rest, hcut, hcs, _, hne⟩ | ⟨f, rest, hcut, hcs, _⟩
  · rw [hcut]
    exact ⟨hne, rest, hcs⟩
  · rw [hcut, f.chars_piece]
    exact ⟨f.chars_ne_nil, rest, hcs⟩

/-- What holds of no text, and holds of a text whenever it holds of what its first piece leaves,
holds of every text. -/
theorem cut_induction {motive : List Char → Prop} (nil : motive [])
    (cons : ∀ c cs rest, c :: cs = (cut c cs).chars ++ rest →
      all (c :: cs) = cut c cs :: all rest → motive rest → motive (c :: cs)) (cs : List Char) :
    motive cs := by
  induction hn : cs.length using Nat.strongRecOn generalizing cs with
  | ind n ih =>
    cases cs with
    | nil => exact nil
    | cons c cs =>
      obtain ⟨hne, rest, hcs⟩ := cut_splits c cs
      have hshorter : rest.length < n := by
        have hpos : 0 < (cut c cs).chars.length := List.length_pos_iff.mpr hne
        rw [← hn, hcs, List.length_append]
        omega
      exact cons c cs rest hcs (all_cons hne hcs) (ih _ hshorter rest rfl)

/-- What holds of no text, and holds of a text with a token or filler in front of it whenever it
holds of the text, holds of every text and its pieces. -/
theorem all_induction {motive : List Char → List Piece → Prop} (nil : motive [] [])
    (token : ∀ kind chars rest, kind ≠ .eof → chars ≠ [] → motive rest (all rest) →
      motive (chars ++ rest) (token kind chars :: all rest))
    (filler : ∀ (f : Filler) rest, f.FitsBefore rest → motive rest (all rest) →
      motive (f.chars ++ rest) (f.piece :: all rest)) (cs : List Char) : motive cs (all cs) := by
  induction cs using cut_induction with
  | nil => exact nil
  | cons c cs rest hcs hall ih =>
    rw [hall, hcs]
    rcases cut_cases c cs with ⟨kind, chars, rest', hcut, hcs', hk, hne⟩ |
      ⟨f, rest', hcut, hcs', hfits⟩
    · rw [hcut]
      exact token kind chars rest hk hne ih
    · have hrest : rest' = rest := by
        rw [hcs, hcut, f.chars_piece] at hcs'
        exact (List.append_cancel_left hcs').symm
      rw [hcut, f.chars_piece]
      exact filler f rest (hrest ▸ hfits) ih

end Piece
end RiftScript
