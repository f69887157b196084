/-
What reading takes, whether it succeeds or fails.

A statement that cannot be read leaves the tokens from some place on, and blames one of the tokens
it took or the next one. `Parsed.Takes` says of both outcomes what the tokens taken are like. In an
expression they are neither braces nor semicolons, so braces and semicolons are met by statements
alone. A statement that is read closes the braces it opens. One that fails right after a semicolon
fails inside a body, where a brace is still open. Only the grammar makes reading fail: the bound on
its depth is never reached.
-/
import RiftScript.Proofs.Parsing.Statements
import RiftScript.Tree.Parser.Recovery

namespace RiftScript

/-- Faults that the grammar finds. The others are the parser's own. -/
def SyntaxFault.IsGrammatical : SyntaxFault → Prop
  | expected _ | notCallable => True
  | tooManyErrors _ | tooDeep => False

/-- What was taken off the front of `ts`: `good` tells about the tokens of a value, and `bad` about
those in front of the place where reading failed. The blamed token is one of these or the next. -/
def Parsed.Takes {α : Type} (good bad : List Token → Prop) (ts : List Token) : Parsed α → Prop
  | .ok _ rest => ∃ taken, ts = taken ++ rest ∧ good taken
  | .error fault blamed rest => fault.IsGrammatical ∧ ∃ before between,
      ts = before ++ between ++ rest ∧ blamed = between ++ rest ∧ bad (before ++ between)

namespace Parser

variable {α β : Type} {good bad : List Token → Prop} {ts : List Token}

/-! ## Steps in a row -/

theorem takes_pure {a : α} (h : good []) : ((Pure.pure a : Parser α) ts).Takes good bad ts :=
  ⟨[], rfl, h⟩

theorem takes_fail {fault : SyntaxFault} (hf : fault.IsGrammatical) (h : bad []) :
    ((fail fault : Parser α) ts).Takes good bad ts :=
  ⟨hf, [], [], rfl, rfl, h⟩

/-- The same outcome, seen from tokens that were taken before. -/
theorem takes_after {good' bad' : List Token → Prop} {front mid : List Token} {r : Parsed α}
    (h : r.Takes good' bad' mid) (hgood : ∀ xs, good' xs → good (front ++ xs))
    (hbad : ∀ xs, bad' xs → bad (front ++ xs)) : r.Takes good bad (front ++ mid) := by
  cases r with
  | ok a rest =>
    obtain ⟨taken, rfl, htaken⟩ := h
    exact ⟨front ++ taken, by rw [List.append_assoc], hgood _ htaken⟩
  | error fault blamed rest =>
    obtain ⟨hf, before, between, rfl, rfl, htaken⟩ := h
    refine ⟨hf, front ++ before, between, by simp, rfl, ?_⟩
    rw [List.append_assoc]
    exact hbad _ htaken

theorem takes_bind {good' good'' bad' bad'' : List Token → Prop} {p : Parser α}
    {f : α → Parser β} (hp : (p ts).Takes good' bad' ts)
    (hf : ∀ a mid, p ts = .ok a mid → mid.length ≤ ts.length → (f a mid).Takes good'' bad'' mid)
    (hgood : ∀ xs ys, good' xs → good'' ys → good (xs ++ ys)) (hbad : ∀ xs, bad' xs → bad xs)
    (hbad' : ∀ xs ys, good' xs → bad'' ys → bad (xs ++ ys)) :
    ((p >>= f) ts).Takes good bad ts := by
  cases hp' : p ts with
  | ok a mid =>
    rw [hp'] at hp
    obtain ⟨taken, rfl, htaken⟩ := hp
    have hlength : mid.length ≤ (taken ++ mid).length := by
      rw [List.length_append]
      omega
    rw [bind_of_ok hp']
    exact takes_after (hf a mid hp' hlength) (fun ys => hgood taken ys htaken)
      fun ys => hbad' taken ys htaken
  | error fault blamed rest =>
    rw [hp'] at hp
    obtain ⟨hgrammar, before, between, hts, hblamed, htaken⟩ := hp
    have herror : (p >>= f) ts = .error fault blamed rest := bind_eq_error.mpr (.inl hp')
    rw [herror]
    exact ⟨hgrammar, before, between, hts, hblamed, hbad _ htaken⟩

theorem takes_map {us : List Token} {p : Parser α} {g : α → β} (hp : (p us).Takes good bad ts) :
    ((p >>= fun a => (Pure.pure (g a) : Parser β)) us).Takes good bad ts := by
  cases hp' : p us with
  | ok a rest =>
    rw [hp'] at hp
    rw [bind_of_ok hp']
    exact hp
  | error fault blamed rest =>
    have herror : (p >>= fun a => (Pure.pure (g a) : Parser β)) us = .error fault blamed rest :=
      bind_eq_error.mpr (.inl hp')
    rw [hp'] at hp
    rw [herror]
    exact hp

theorem takes_accept {test : TokenKind → Bool} {f : Option Token → Parser β}
    (hsome : ∀ t us, ts = t :: us → test t.kind = true → (f (some t) us).Takes good bad ts)
    (hnone : (∀ t ∈ ts.head?, test t.kind = false) → (f none ts).Takes good bad ts) :
    ((accept test >>= f) ts).Takes good bad ts := by
  cases hacc : accept test ts with
  | ok o mid =>
    rw [bind_of_ok hacc]
    cases o with
    | some t =>
      obtain ⟨rfl, ht⟩ := accept_eq_some.mp hacc
      exact hsome t mid rfl ht
    | none =>
      obtain ⟨rfl, hno⟩ := accept_eq_none.mp hacc
      exact hnone hno
  | error fault blamed rest =>
    cases ts with
    | nil => cases hacc
    | cons t ts =>
      rw [accept] at hacc
      split at hacc <;> cases hacc

theorem takes_expectThat {test : TokenKind → Bool} {what : Expected} {f : Token → Parser β}
    (h : ∀ t us, ts = t :: us → test t.kind = true → (f t us).Takes good bad ts) (hbad : bad []) :
    ((expectThat test what >>= f) ts).Takes good bad ts := by
  have hmiss : expectThat test what ts = .error (.expected what) ts ts →
      ((expectThat test what >>= f) ts).Takes good bad ts := by
    intro hfail
    have herror : (expectThat test what >>= f) ts = .error (.expected what) ts ts :=
      bind_eq_error.mpr (.inl hfail)
    rw [herror]
    exact ⟨trivial, [], [], rfl, rfl, hbad⟩
  cases ts with
  | nil => exact hmiss rfl
  | cons t us =>
    by_cases ht : test t.kind = true
    · rw [bind_of_ok (expectThat_eq_ok.mpr ⟨rfl, ht⟩)]
      exact h t us rfl ht
    · exact hmiss (by simp [expectThat, ht])

theorem takes_expect {kind : TokenKind} {what : Expected} {f : Token → Parser β}
    (h : ∀ t us, ts = t :: us → t.kind = kind → (f t us).Takes good bad ts) (hbad : bad []) :
    ((expect kind what >>= f) ts).Takes good bad ts :=
  takes_expectThat (fun t us hts ht => h t us hts (beq_iff_eq.mp ht)) hbad

theorem takes_mono {good' bad' : List Token → Prop} {r : Parsed α} (h : r.Takes good' bad' ts)
    (hgood : ∀ xs, good' xs → good xs) (hbad : ∀ xs, bad' xs → bad xs) : r.Takes good bad ts := by
  show r.Takes good bad ([] ++ ts)
  exact takes_after h hgood hbad

theorem takes_cons {good' bad' : List Token → Prop} {t : Token} {us : List Token} {r : Parsed α}
    (h : r.Takes good' bad' us) (hgood : ∀ xs, good' xs → good (t :: xs))
    (hbad : ∀ xs, bad' xs → bad (t :: xs)) : r.Takes good bad (t :: us) := by
  show r.Takes good bad ([t] ++ us)
  exact takes_after h hgood hbad

end Parser

/-! ## Expressions -/

/-- Kinds that stand inside one statement: neither braces nor semicolons. -/
def TokenKind.isInline (k : TokenKind) : Bool :=
  k != .leftBrace && k != .rightBrace && k != .semicolon

def AllInline (ts : List Token) : Prop :=
  ∀ t ∈ ts, t.kind.isInline = true

theorem allInline_nil : AllInline [] :=
  List.forall_mem_nil _

theorem AllInline.append {xs ys : List Token} (hx : AllInline xs) (hy : AllInline ys) :
    AllInline (xs ++ ys) := by
  intro t ht
  rcases List.mem_append.mp ht with ht | ht
  · exact hx t ht
  · exact hy t ht

theorem allInline_singleton {t : Token} (ht : t.kind.isInline = true) : AllInline [t] :=
  List.forall_mem_singleton.mpr ht

theorem Level.isInline_of_hasOperator {l : Level} {k : TokenKind} (h : l.hasOperator k = true) :
    k.isInline = true := by
  rw [Level.hasOperator_iff] at h
  cases k <;> first | rfl | cases h

namespace Parser

theorem isInline_of_isUnaryOperator {k : TokenKind} (h : isUnaryOperator k = true) :
    k.isInline = true := by
  rcases isUnaryOperator_iff.mp h with rfl | rfl | rfl <;> rfl

theorem isInline_of_isParameter {k : TokenKind} (h : isParameter k = true) : k.isInline = true := by
  cases k <;> first | rfl | cases h

theorem isInline_of_isEvent {k : TokenKind} (h : k.isEvent = true) : k.isInline = true := by
  cases k <;> first | rfl | cases h

/-- What is said of the tokens taken stays true if inline tokens were taken before them, and
nothing else is needed for a failure after inline tokens alone. -/
structure Absorbs (good bad : List Token → Prop) : Prop where
  read : ∀ xs ys, AllInline xs → good ys → good (xs ++ ys)
  failed : ∀ xs ys, AllInline xs → bad ys → bad (xs ++ ys)
  start : bad []

/-- Only inline tokens are taken, whatever the outcome. -/
def ReadsInline (ts : List Token) (r : Parsed α) : Prop :=
  r.Takes AllInline AllInline ts

theorem absorbs_allInline : Absorbs AllInline AllInline :=
  ⟨fun _ _ => .append, fun _ _ => .append, allInline_nil⟩

theorem readsInline_pure {a : α} : ReadsInline ts ((Pure.pure a : Parser α) ts) :=
  takes_pure allInline_nil

namespace Absorbs

theorem bad_of_allInline (h : Absorbs good bad) {xs : List Token} (hx : AllInline xs) : bad xs := by
  rw [← List.append_nil xs]
  exact h.failed xs [] hx h.start

theorem cons (h : Absorbs good bad) {t : Token} {us : List Token} {r : Parsed α}
    (ht : t.kind.isInline = true) (hr : r.Takes good bad us) : r.Takes good bad (t :: us) :=
  takes_cons hr (fun ys => h.read [t] ys (allInline_singleton ht))
    fun ys => h.failed [t] ys (allInline_singleton ht)

theorem bind (h : Absorbs good bad) {p : Parser α} {f : α → Parser β}
    (hp : ReadsInline ts (p ts))
    (hf : ∀ a mid, p ts = .ok a mid → mid.length ≤ ts.length → (f a mid).Takes good bad mid) :
    ((p >>= f) ts).Takes good bad ts :=
  takes_bind hp hf h.read (fun _ => h.bad_of_allInline) h.failed

theorem accept (h : Absorbs good bad) {test : TokenKind → Bool} {f : Option Token → Parser β}
    (htest : ∀ k, test k = true → k.isInline = true)
    (hsome : ∀ t us, ts = t :: us → (f (some t) us).Takes good bad us)
    (hnone : (f none ts).Takes good bad ts) :
    ((Parser.accept test >>= f) ts).Takes good bad ts := by
  refine takes_accept ?_ fun _ => hnone
  rintro t us rfl ht
  exact h.cons (htest _ ht) (hsome t us rfl)

theorem expectThat (h : Absorbs good bad) {test : TokenKind → Bool} {what : Expected}
    {f : Token → Parser β} (htest : ∀ k, test k = true → k.isInline = true)
    (hf : ∀ t us, ts = t :: us → (f t us).Takes good bad us) :
    ((Parser.expectThat test what >>= f) ts).Takes good bad ts := by
  refine takes_expectThat ?_ h.start
  rintro t us rfl ht
  exact h.cons (htest _ ht) (hf t us rfl)

theorem expect (h : Absorbs good bad) {kind : TokenKind} {what : Expected} {f : Token → Parser β}
    (hk : kind.isInline = true) (hf : ∀ t us, ts = t :: us → (f t us).Takes good bad us) :
    ((Parser.expect kind what >>= f) ts).Takes good bad ts := by
  refine takes_expect ?_ h.start
  rintro t us rfl ht
  exact h.cons (by rw [ht, hk]) (hf t us rfl)

end Absorbs

/-- The opening parenthesis is blamed only after all of the arguments have been taken. -/
theorem readsInline_callOf {callee : Expr} {opening : Token} {us : List Token}
    {p : Parser (List Expr)} (ho : opening.kind = .leftParen) (hp : ReadsInline us (p us)) :
    ReadsInline (opening :: us) ((p >>= callOf callee (opening :: us)) us) := by
  have hinline : opening.kind.isInline = true := by rw [ho]; rfl
  cases hp' : p us with
  | error fault blamed rest =>
    have herror : (p >>= callOf callee (opening :: us)) us = .error fault blamed rest :=
      bind_eq_error.mpr (.inl hp')
    rw [hp'] at hp
    rw [herror]
    exact absorbs_allInline.cons hinline hp
  | ok arguments rest =>
    rw [hp'] at hp
    rw [bind_of_ok hp']
    obtain ⟨taken, rfl, htaken⟩ := hp
    have hall : AllInline (opening :: taken) := (allInline_singleton hinline).append htaken
    by_cases hname : ∃ name, callee = .variable name
    · obtain ⟨name, rfl⟩ := hname
      exact ⟨opening :: taken, rfl, hall⟩
    · have hblame : callOf callee (opening :: (taken ++ rest)) arguments rest =
          .error .notCallable (opening :: (taken ++ rest)) rest := by
        cases callee <;> first | rfl | exact absurd ⟨_, rfl⟩ hname
      rw [hblame]
      exact ⟨trivial, [], opening :: taken, rfl, rfl, hall⟩

/-- What starts with some token takes at least that one. -/
theorem length_lt_of_opens {ys rest : List Token} {opens : Token → Prop}
    (h : ∃ t us, ys = t :: us ∧ opens t) : rest.length < (ys ++ rest).length := by
  obtain ⟨t, us, rfl, _⟩ := h
  rw [List.length_append, List.length_cons]
  omega

theorem length_lt_of_expressionAt {d : Nat} {l : Level} {rest : List Token} {e : Expr}
    (h : expressionAt d l ts = .ok e rest) : rest.length < ts.length := by
  obtain ⟨ys, rfl, hs⟩ := spelled_of_expressionAt h
  exact length_lt_of_opens (hs.yields.opens hs.wellFormed)

theorem length_lt_of_primary {d : Nat} {rest : List Token} {e : Expr}
    (h : primary d ts = .ok e rest) : rest.length < ts.length := by
  obtain ⟨ys, rfl, hyields, hwf, _⟩ := spelled_of_primary h
  exact length_lt_of_opens (hyields.opens hwf)

mutual

/- The bounds are those of `ReadsBack`: a step down a level costs one, and a token pays for ten. -/

theorem readsInline_expressionAt : ∀ {d : Nat} {l : Level} {ts : List Token},
    10 * ts.length + 10 ≤ d + l.rank → ReadsInline ts (expressionAt d l ts)
  | 0, l, ts, hd => by
    have hrank : l.rank ≤ 6 := by cases l <;> decide
    omega
  | d + 1, l, ts, hd => by
    by_cases hl : l = .unary
    · subst hl
      simp only [Level.rank] at hd
      rw [expressionAt_unary]
      refine absorbs_allInline.accept (fun _ => isInline_of_isUnaryOperator) ?_
        (readsInline_call (by omega))
      rintro t us rfl
      rw [List.length_cons] at hd
      refine takes_map (readsInline_expressionAt ?_)
      simp only [Level.rank]
      omega
    · have hrank := Level.rank_tighter hl
      have hlt := rank_lt_of_ne_unary hl
      rw [expressionAt_binary hl]
      refine absorbs_allInline.bind (readsInline_expressionAt (by omega)) fun left mid hleft _ => ?_
      have hlength := length_lt_of_expressionAt hleft
      exact readsInline_operations hl (by omega)

theorem readsInline_operations : ∀ {d : Nat} {l : Level} {left : Expr} {ts : List Token},
    l ≠ .unary → 10 * ts.length + 1 ≤ d → ReadsInline ts (operations d l left ts)
  | 0, _, _, _, _, hd => by omega
  | d + 1, l, left, ts, hl, hd => by
    have hrank := Level.rank_tighter hl
    rw [operations]
    refine absorbs_allInline.accept (fun k => Level.isInline_of_hasOperator) ?_ readsInline_pure
    rintro t us rfl
    rw [List.length_cons] at hd
    refine absorbs_allInline.bind (readsInline_expressionAt (by omega)) fun right mid hright _ => ?_
    have hlength := length_lt_of_expressionAt hright
    exact readsInline_operations hl (by omega)

theorem readsInline_call : ∀ {d : Nat} {ts : List Token}, 10 * ts.length + 3 ≤ d →
    ReadsInline ts (call d ts)
  | 0, _, hd => by omega
  | d + 1, ts, hd => by
    rw [call]
    refine absorbs_allInline.bind (readsInline_primary (by omega)) fun callee mid hcallee _ => ?_
    have hlength := length_lt_of_primary hcallee
    rw [bind_of_ok (ahead_eq_ok.mpr ⟨rfl, rfl⟩)]
    refine takes_accept ?_ fun _ => readsInline_pure
    rintro t us rfl ht
    rw [List.length_cons] at hlength
    exact readsInline_callOf (beq_iff_eq.mp ht) (readsInline_arguments (by omega))

theorem readsInline_primary : ∀ {d : Nat} {ts : List Token}, 10 * ts.length + 2 ≤ d →
    ReadsInline ts (primary d ts)
  | 0, _, hd => by omega
  | d + 1, [], _ => takes_fail trivial allInline_nil
  | d + 1, t :: ts, hd => by
    rw [List.length_cons] at hd
    simp only [primary]
    split
    case h_10 hk => exact absorbs_allInline.cons (by rw [hk]; rfl) (readsInline_group (by omega))
    case h_11 => exact takes_fail trivial allInline_nil
    all_goals
      rename_i hk
      exact ⟨[t], rfl, allInline_singleton (by rw [hk]; rfl)⟩

theorem readsInline_group : ∀ {d : Nat} {ts : List Token}, 10 * ts.length + 11 ≤ d →
    ReadsInline ts (group d ts)
  | 0, _, hd => by omega
  | d + 1, ts, hd => by
    rw [group]
    refine absorbs_allInline.bind (readsInline_expressionAt (by omega)) fun inner mid _ _ => ?_
    exact absorbs_allInline.expect rfl fun _ _ _ => readsInline_pure

theorem readsInline_arguments : ∀ {d : Nat} {ts : List Token}, 10 * ts.length + 11 ≤ d →
    ReadsInline ts (arguments d ts)
  | 0, _, hd => by omega
  | d + 1, ts, hd => by
    rw [arguments]
    refine absorbs_allInline.accept (by simp [TokenKind.isInline])
      (fun _ _ _ => readsInline_pure) ?_
    refine absorbs_allInline.bind (readsInline_expressionAt (by omega)) fun first mid hfirst _ => ?_
    have hlength := length_lt_of_expressionAt hfirst
    exact takes_map (readsInline_moreArguments (by omega))

theorem readsInline_moreArguments : ∀ {d : Nat} {ts : List Token}, 10 * ts.length + 1 ≤ d →
    ReadsInline ts (moreArguments d ts)
  | 0, _, hd => by omega
  | d + 1, ts, hd => by
    rw [moreArguments]
    refine absorbs_allInline.accept (by simp [TokenKind.isInline]) ?_ ?_
    · rintro t us rfl
      rw [List.length_cons] at hd
      refine absorbs_allInline.bind (readsInline_expressionAt (by omega)) fun next mid hnext _ => ?_
      have hlength := length_lt_of_expressionAt hnext
      exact takes_map (readsInline_moreArguments (by omega))
    · exact absorbs_allInline.expect rfl fun _ _ _ => readsInline_pure

end

theorem readsInline_expression : ReadsInline ts (expression ts) :=
  readsInline_expressionAt (by rw [depth]; omega)

end Parser

/-! ## Braces -/

namespace Recovery

theorem openBraces_cons (t : Token) (ts : List Token) :
    openBraces (t :: ts) = braceChange t.kind + openBraces ts := rfl

theorem openBraces_append (xs ys : List Token) :
    openBraces (xs ++ ys) = openBraces xs + openBraces ys := by
  induction xs with
  | nil => exact (Int.zero_add _).symm
  | cons t xs ih =>
    rw [List.cons_append, openBraces_cons, openBraces_cons, ih]
    omega

theorem braceChange_of_braceless {k : TokenKind} (h : k ≠ .leftBrace ∧ k ≠ .rightBrace) :
    braceChange k = 0 := by
  unfold braceChange
  split
  · exact absurd rfl h.1
  · exact absurd rfl h.2
  · rfl

theorem openBraces_of_braceless {ts : List Token}
    (h : ∀ t ∈ ts, t.kind ≠ .leftBrace ∧ t.kind ≠ .rightBrace) : openBraces ts = 0 := by
  induction ts with
  | nil => rfl
  | cons t ts ih =>
    obtain ⟨ht, hts⟩ := List.forall_mem_cons.mp h
    rw [openBraces_cons, braceChange_of_braceless ht, ih hts]
    rfl

theorem openBraces_of_allInline {ts : List Token} (h : AllInline ts) : openBraces ts = 0 := by
  refine openBraces_of_braceless fun t ht => ?_
  have hinline := h t ht
  constructor <;> intro hk <;> rw [hk] at hinline <;> cases hinline

/-- Tokens in front of the place where a statement failed: a brace is still open, or the last of
them does not end a statement. -/
def Halted (ts : List Token) : Prop :=
  0 < openBraces ts ∨ openBraces ts = 0 ∧ ∀ t ∈ ts.getLast?, t.kind ≠ .semicolon

theorem Halted.nonneg {ts : List Token} (h : Halted ts) : 0 ≤ openBraces ts := by
  rcases h with h | ⟨h, _⟩ <;> omega

theorem halted_of_allInline {ts : List Token} (h : AllInline ts) : Halted ts := by
  refine .inr ⟨openBraces_of_allInline h, fun t ht hk => ?_⟩
  have hinline := h t (List.mem_of_getLast? ht)
  rw [hk] at hinline
  cases hinline

/-- Closed braces in front change nothing, unless nothing at all follows them. -/
theorem Halted.append {xs ys : List Token} (hy : Halted ys) (hx : openBraces xs = 0)
    (hne : ys ≠ []) : Halted (xs ++ ys) := by
  have hlast : (xs ++ ys).getLast? = ys.getLast? := by
    rw [List.getLast?_append, List.getLast?_eq_some_getLast hne, Option.some_or]
  rw [Halted, openBraces_append, hx, Int.zero_add, hlast]
  exact hy

end Recovery

/-! ## Statements -/

namespace Parser

open Recovery

/-- The tokens of a value open `n` braces more than they close. A failure comes where at least `m`
more have been opened. -/
def TakesBraces (n m : Int) (ts : List Token) (r : Parsed α) : Prop :=
  r.Takes (openBraces · = n) (m ≤ openBraces ·) ts

/-- A statement closes the braces it opens. It does not fail right after a semicolon, unless a
brace is open there. -/
def TakesStatement (ts : List Token) (r : Parsed α) : Prop :=
  r.Takes (openBraces · = 0) Halted ts

theorem absorbs_braces {n : Int} : Absorbs (openBraces · = n) (0 ≤ openBraces ·) where
  read xs ys hx hy := by
    show openBraces (xs ++ ys) = n
    rw [openBraces_append, openBraces_of_allInline hx, hy, Int.zero_add]
  failed xs ys hx hy := by
    show 0 ≤ openBraces (xs ++ ys)
    rw [openBraces_append, openBraces_of_allInline hx, Int.zero_add]
    exact hy
  start := Int.le_refl 0

theorem absorbs_statement : Absorbs (openBraces · = 0) Halted where
  read := absorbs_braces.read
  failed xs ys hx hy := by
    by_cases hne : ys = []
    · rw [hne, List.append_nil]
      exact halted_of_allInline hx
    · exact hy.append (openBraces_of_allInline hx) hne
  start := halted_of_allInline allInline_nil

theorem TakesStatement.braces {r : Parsed α} (h : TakesStatement ts r) : TakesBraces 0 0 ts r :=
  takes_mono h (fun _ => id) fun _ => Halted.nonneg

theorem takesBraces_bind {n n' m k : Int} {p : Parser α} {f : α → Parser β}
    (hp : TakesBraces n m ts (p ts))
    (hf : ∀ a mid, p ts = .ok a mid → mid.length ≤ ts.length → TakesBraces n' 0 mid (f a mid))
    (hm : k ≤ m) (hn : k ≤ n) : TakesBraces (n + n') k ts ((p >>= f) ts) := by
  refine takes_bind hp hf ?_ ?_ ?_
  · intro xs ys hx hy
    show openBraces (xs ++ ys) = n + n'
    rw [openBraces_append, hx, hy]
  · intro xs hx
    exact Int.le_trans hm hx
  · intro xs ys hx hy
    show k ≤ openBraces (xs ++ ys)
    rw [openBraces_append, hx]
    omega

/-- A body after its opening brace. -/
theorem takesStatement_brace {brace : Token} {us : List Token} {r : Parsed α}
    (hb : brace.kind = .leftBrace) (h : TakesBraces (-1) 0 us r) :
    TakesStatement (brace :: us) r := by
  refine takes_cons h ?_ ?_
  · intro xs hx
    rw [openBraces_cons, hb, hx]
    rfl
  · intro xs hx
    refine .inl ?_
    rw [openBraces_cons, hb, braceChange]
    omega

theorem readsInline_moreParameters : ∀ {d : Nat} {ts : List Token}, ts.length < d →
    ReadsInline ts (moreParameters d ts)
  | 0, _, hd => by omega
  | d + 1, ts, hd => by
    rw [moreParameters]
    refine absorbs_allInline.accept (by simp [TokenKind.isInline]) ?_ ?_
    · rintro t us rfl
      rw [List.length_cons] at hd
      refine absorbs_allInline.expectThat (fun _ => isInline_of_isParameter) ?_
      rintro next vs rfl
      rw [List.length_cons] at hd
      exact takes_map (readsInline_moreParameters (by omega))
    · exact absorbs_allInline.expect rfl fun _ _ _ => readsInline_pure

theorem readsInline_parameters {d : Nat} (hd : ts.length ≤ d) :
    ReadsInline ts (parameters d ts) := by
  rw [parameters]
  refine absorbs_allInline.accept (by simp [TokenKind.isInline]) ?_ readsInline_pure
  rintro t us rfl
  rw [List.length_cons] at hd
  refine absorbs_allInline.accept (by simp [TokenKind.isInline])
    (fun _ _ _ => readsInline_pure) ?_
  refine absorbs_allInline.expectThat (fun _ => isInline_of_isParameter) ?_
  rintro first vs rfl
  rw [List.length_cons] at hd
  exact takes_map (readsInline_moreParameters (by omega))

/-- A condition opens the brace of the body that follows it. -/
theorem takes_condition {opening : Expected} :
    (condition opening ts).Takes (openBraces · = 1) AllInline ts := by
  have habsorbs : Absorbs (openBraces · = 1) AllInline :=
    ⟨absorbs_braces.read, absorbs_allInline.failed, allInline_nil⟩
  rw [condition]
  refine habsorbs.expect rfl fun _ us _ => ?_
  refine habsorbs.bind readsInline_expression fun test mid _ _ => ?_
  refine habsorbs.expect rfl fun _ vs _ => ?_
  refine takes_expect ?_ allInline_nil
  rintro brace ws rfl hb
  refine ⟨[brace], rfl, ?_⟩
  show openBraces [brace] = 1
  rw [openBraces_cons, hb]
  rfl

theorem takesStatement_expression : TakesStatement ts (expressionStatement ts) := by
  rw [expressionStatement]
  refine absorbs_statement.bind readsInline_expression fun value mid _ _ => ?_
  refine takes_accept ?_ fun _ => takes_pure rfl
  rintro semicolon us rfl hk
  refine ⟨[semicolon], rfl, ?_⟩
  show openBraces [semicolon] = 0
  rw [openBraces_cons, beq_iff_eq.mp hk]
  rfl

theorem opensStatement_iff {k : TokenKind} : opensStatement k = true ↔
    k = .ifWord ∨ k = .whileWord ∨ k = .combo ∨ k = .champion := by
  simp [opensStatement, or_assoc]

theorem isInline_of_opensStatement {k : TokenKind} (h : opensStatement k = true) :
    k.isInline = true := by
  rcases opensStatement_iff.mp h with rfl | rfl | rfl | rfl <;> rfl

theorem isStatementWord_iff {k : TokenKind} :
    isStatementWord k ↔ opensStatement k = true ∨ k = .leftBrace := by
  rw [isStatementWord, opensStatement_iff]
  constructor
  · rintro (hk | hk | hk | hk | hk) <;> simp [hk]
  · rintro ((hk | hk | hk | hk) | hk) <;> simp [hk]

/-- What is taken after a brace that was opened. -/
def HaltsInside (ys : List Token) : Prop :=
  ∀ xs, openBraces xs = 1 → Halted (xs ++ ys)

theorem haltsInside_of_nonneg {ys : List Token} (h : 0 ≤ openBraces ys) : HaltsInside ys := by
  intro xs hx
  refine .inl ?_
  rw [openBraces_append, hx]
  omega

/-- A condition and what follows the brace that it opens. -/
theorem takesStatement_condition {opening : Expected} {f : Expr → Parser β}
    (h : ∀ test mid, mid.length ≤ ts.length →
      (f test mid).Takes (openBraces · = -1) HaltsInside mid) :
    TakesStatement ts ((condition opening >>= f) ts) := by
  refine takes_bind takes_condition (fun test mid _ hlength => h test mid hlength) ?_
    (fun _ => halted_of_allInline) fun xs ys hx hy => hy xs hx
  intro xs ys hx hy
  show openBraces (xs ++ ys) = 0
  rw [openBraces_append, hx, hy]
  rfl

theorem length_lt_of_statementAt {d : Nat} {rest : List Token} {s : Stmt}
    (h : statementAt d ts = .ok s rest) : rest.length < ts.length := by
  obtain ⟨ys, rfl, hyield, hwf⟩ := spelled_of_statementAt (fun _ _ ha => ha) h
  exact length_lt_of_opens (hyield.opens hwf)

/-- A statement takes at least one token. -/
theorem length_lt_of_statement {rest : List Token} {s : Stmt} (h : statement ts = .ok s rest) :
    rest.length < ts.length :=
  length_lt_of_statementAt h

mutual

theorem takesStatement_statementAt : ∀ {d : Nat} {ts : List Token}, 10 * ts.length + 1 ≤ d →
    TakesStatement ts (statementAt d ts)
  | 0, _, hd => by omega
  | d + 1, ts, hd => by
    by_cases hword : ∃ t us, ts = t :: us ∧ isStatementWord t.kind
    · obtain ⟨t, us, rfl, hk⟩ := hword
      rw [List.length_cons] at hd
      rcases isStatementWord_iff.mp hk with hk | hk
      · exact absorbs_statement.cons (isInline_of_opensStatement hk)
          (takesStatement_word hk (by omega))
      · rw [statementAt_block hk]
        exact takesStatement_brace hk (takes_map (takesBraces_bodyAt (by omega)))
    · rw [statementAt_expression]
      · exact takesStatement_expression
      · intro t ht hk
        obtain ⟨us, rfl⟩ := List.head?_eq_some_iff.mp ht
        exact hword ⟨t, us, rfl, hk⟩

/-- A word that only a statement can start with is taken, so a failure is not blamed on it. -/
theorem takesStatement_word : ∀ {d : Nat} {t : Token} {us : List Token},
    opensStatement t.kind = true → 10 * us.length + 10 ≤ d →
    TakesStatement us (statementAt d (t :: us))
  | 0, _, _, _, hd => by omega
  | d + 1, t, us, hk, hd => by
    rcases opensStatement_iff.mp hk with hk | hk | hk | hk
    · rw [statementAt_if hk]
      refine takesStatement_condition fun test mid hmid => ?_
      refine takes_bind (takesBraces_bodyAt (by omega))
        (fun thenBody mid' _ hmid' => takes_map (takes_elseAt (by omega))) ?_
        (fun _ => haltsInside_of_nonneg) ?_
      · intro xs ys hx hy
        show openBraces (xs ++ ys) = -1
        rw [openBraces_append, hx, hy]
        rfl
      · -- The condition, the first body and the failed branch, in this order.
        intro ys zs hy hz xs hx
        rw [← List.append_assoc]
        refine hz.2.append ?_ hz.1
        rw [openBraces_append, hx, hy]
        rfl
    · rw [statementAt_while hk]
      refine takesStatement_condition fun test mid hmid => takes_map ?_
      exact takes_mono (takesBraces_bodyAt (by omega)) (fun _ => id) fun _ => haltsInside_of_nonneg
    · rw [statementAt_combo hk]
      refine takes_expect ?_ absorbs_statement.start
      rintro brace vs rfl hb
      rw [List.length_cons] at hd
      exact takesStatement_brace hb (takes_map (takesBraces_bodyAt (by omega)))
    · rw [statementAt_champion hk]
      exact takes_map (takesStatement_championAt hk (by omega))

theorem takesBraces_bodyAt : ∀ {d : Nat} {closing : Expected} {ts : List Token},
    10 * ts.length + 2 ≤ d → TakesBraces (-1) 0 ts (bodyAt d closing ts)
  | 0, _, _, hd => by omega
  | d + 1, closing, [], _ => takes_fail trivial (Int.le_refl 0)
  | d + 1, closing, t :: ts, hd => by
    rw [List.length_cons] at hd
    by_cases ht : t.kind = .rightBrace
    · rw [bodyAt_close ht]
      refine ⟨[t], rfl, ?_⟩
      show openBraces [t] = -1
      rw [openBraces_cons, ht]
      rfl
    · rw [bodyAt_statement ht]
      have hfirst : TakesStatement (t :: ts) (statementAt d (t :: ts)) :=
        takesStatement_statementAt (by rw [List.length_cons]; omega)
      show TakesBraces (0 + -1) 0 (t :: ts) _
      refine takesBraces_bind hfirst.braces (fun first mid hok _ => ?_) (Int.le_refl 0)
        (Int.le_refl 0)
      have hlength := length_lt_of_statementAt hok
      rw [List.length_cons] at hlength
      exact takes_map (takesBraces_bodyAt (by omega))

/-- An other branch can fail only after the word that starts it. -/
theorem takes_elseAt : ∀ {d : Nat} {ts : List Token}, 10 * ts.length + 3 ≤ d →
    (elseAt d ts).Takes (openBraces · = 0) (fun ys => ys ≠ [] ∧ Halted ys) ts
  | 0, _, hd => by omega
  | d + 1, ts, hd => by
    rw [elseAt]
    refine takes_accept ?_ fun _ => takes_pure rfl
    rintro other us rfl ho
    rw [List.length_cons] at hd
    have hbody : TakesStatement us ((do
        let _ ← expect .leftBrace .elseOpening
        return some (← bodyAt d .elseClosing)) us) := by
      refine takes_expect ?_ absorbs_statement.start
      rintro brace vs rfl hb
      rw [List.length_cons] at hd
      exact takesStatement_brace hb (takes_map (takesBraces_bodyAt (by omega)))
    have hinline : other.kind.isInline = true := by rw [beq_iff_eq.mp ho]; rfl
    have hall := allInline_singleton hinline
    exact takes_cons hbody (fun ys => absorbs_statement.read [other] ys hall)
      fun ys hys => ⟨List.cons_ne_nil _ _, absorbs_statement.failed [other] ys hall hys⟩

theorem takesStatement_championAt : ∀ {d : Nat} {t : Token} {us : List Token},
    t.kind = .champion → 10 * us.length + 10 ≤ d + 1 → TakesStatement us (championAt d (t :: us))
  | 0, _, _, _, hd => by omega
  | d + 1, t, us, hk, hd => by
    rw [championAt, bind_of_ok (expect_cons hk)]
    refine absorbs_statement.expect rfl ?_
    rintro name vs rfl
    refine takes_expect ?_ absorbs_statement.start
    rintro brace ws rfl hb
    simp only [List.length_cons] at hd
    exact takesStatement_brace hb (takes_map (takesBraces_handlersAt (by omega)))

theorem takesBraces_handlersAt : ∀ {d : Nat} {ts : List Token}, 10 * ts.length + 2 ≤ d →
    TakesBraces (-1) 0 ts (handlersAt d ts)
  | 0, _, hd => by omega
  | d + 1, [], _ => takes_fail trivial (Int.le_refl 0)
  | d + 1, t :: ts, hd => by
    rw [List.length_cons] at hd
    by_cases ht : t.kind = .rightBrace
    · rw [handlersAt_close ht]
      refine ⟨[t], rfl, ?_⟩
      show openBraces [t] = -1
      rw [openBraces_cons, ht]
      rfl
    · rw [handlersAt_handler ht]
      refine absorbs_braces.expectThat (fun _ => isInline_of_isEvent) ?_
      rintro event us hts
      obtain rfl : ts = us := (List.cons.inj hts).2
      refine absorbs_braces.bind (readsInline_parameters (by omega)) fun params mid _ hmid => ?_
      refine takes_expect ?_ (Int.le_refl 0)
      rintro brace vs rfl hb
      rw [List.length_cons] at hmid
      have hrest : TakesBraces (-1 + -1) (-1) vs ((do
          let body ← bodyAt d .handlerClosing
          return Handler.mk event params body :: (← handlersAt d)) vs) := by
        refine takesBraces_bind (takesBraces_bodyAt (by omega)) (fun body mid' _ hmid' => ?_)
          (by omega) (Int.le_refl (-1))
        exact takes_map (takesBraces_handlersAt (by omega))
      refine takes_cons hrest ?_ ?_
      · intro xs hx
        rw [openBraces_cons, hb, hx]
        rfl
      · intro xs hx
        rw [openBraces_cons, hb, braceChange]
        omega

end

theorem takesStatement_statement : TakesStatement ts (statement ts) :=
  takesStatement_statementAt (by rw [depth]; omega)

theorem takesStatement_statement_word {t : Token} {us : List Token}
    (h : opensStatement t.kind = true) : TakesStatement us (statement (t :: us)) :=
  takesStatement_word h (by rw [depth, List.length_cons]; omega)

end Parser
end RiftScript
