/-
Reading a statement is the converse of spelling it.

Which statement is read depends on the first token alone, and the tokens after it are taken by
bodies, conditions and handlers, which hold statements in turn. What is read is spelled by the
tokens taken, with every expression statement apart from what follows it. In the other direction
statements are read back in front of anything that does not start with the word before an other
branch, since a conditional would take that for its own.
-/
import RiftScript.Proofs.Parsing.Expressions

namespace RiftScript
namespace Parser

/-! ## The first token decides -/

variable {d : Nat} {t : Token} {ts : List Token}

theorem statementAt_champion (h : t.kind = .champion) :
    statementAt (d + 1) (t :: ts) = (do return Stmt.champion (← championAt d)) (t :: ts) := by
  rw [statementAt, bind_of_ok (peek_cons h)]

theorem statementAt_if (h : t.kind = .ifWord) :
    statementAt (d + 1) (t :: ts) = (do
      let test ← condition .ifOpening
      let thenBody ← bodyAt d .thenClosing
      return Stmt.conditional test thenBody (← elseAt d)) ts := by
  rw [statementAt, bind_of_ok (peek_cons h)]
  exact bind_of_ok (accept_cons h)

theorem statementAt_while (h : t.kind = .whileWord) :
    statementAt (d + 1) (t :: ts) = (do
      let test ← condition .whileOpening
      return Stmt.loop test (← bodyAt d .whileClosing)) ts := by
  rw [statementAt, bind_of_ok (peek_cons h)]
  exact bind_of_ok (accept_cons h)

theorem statementAt_combo (h : t.kind = .combo) :
    statementAt (d + 1) (t :: ts) = (do
      let _ ← expect .leftBrace .comboOpening
      return Stmt.combo (← bodyAt d .comboClosing)) ts := by
  rw [statementAt, bind_of_ok (peek_cons h)]
  exact bind_of_ok (accept_cons h)

theorem statementAt_block (h : t.kind = .leftBrace) :
    statementAt (d + 1) (t :: ts) = (do return Stmt.block (← bodyAt d .blockClosing)) ts := by
  rw [statementAt, bind_of_ok (peek_cons h)]
  exact bind_of_ok (accept_cons h)

/-- The kinds that decide which statement starts with them. -/
def isStatementWord (k : TokenKind) : Prop :=
  k = .champion ∨ k = .ifWord ∨ k = .whileWord ∨ k = .combo ∨ k = .leftBrace

theorem statementAt_expression (h : ∀ t ∈ ts.head?, ¬ isStatementWord t.kind) :
    statementAt (d + 1) ts = expressionStatement ts := by
  have hpeek : peek ts = .ok (ts.head?.map Token.kind) ts := rfl
  rw [statementAt, bind_of_ok hpeek]
  cases ts with
  | nil => rfl
  | cons t ts =>
    have ht := h t rfl
    simp only [List.head?_cons, Option.map_some]
    refine congrFun ?_ (t :: ts)
    split
    case h_6 => rfl
    all_goals
      rename_i hk
      exact absurd (Option.some.inj hk) fun hk => ht (by simp [isStatementWord, hk])

theorem bodyAt_close {closing : Expected} (h : t.kind = .rightBrace) :
    bodyAt (d + 1) closing (t :: ts) = .ok [] ts := by
  rw [bodyAt, bind_of_ok (peek_cons h)]
  exact bind_of_ok (accept_cons h)

theorem bodyAt_statement {closing : Expected} (h : t.kind ≠ .rightBrace) :
    bodyAt (d + 1) closing (t :: ts) =
      (do return (← statementAt d) :: (← bodyAt d closing)) (t :: ts) := by
  rw [bodyAt, bind_of_ok (peek_cons rfl)]
  refine congrFun ?_ (t :: ts)
  split
  case h_1 hk => cases hk
  case h_2 hk => exact absurd (Option.some.inj hk) h
  case h_3 => rfl

theorem handlersAt_close (h : t.kind = .rightBrace) : handlersAt (d + 1) (t :: ts) = .ok [] ts := by
  rw [handlersAt, bind_of_ok (peek_cons h)]
  exact bind_of_ok (accept_cons h)

theorem handlersAt_handler (h : t.kind ≠ .rightBrace) :
    handlersAt (d + 1) (t :: ts) = (do
      let event ← expectThat TokenKind.isEvent .eventName
      let params ← parameters d
      let _ ← expect .leftBrace .handlerOpening
      let body ← bodyAt d .handlerClosing
      return Handler.mk event params body :: (← handlersAt d)) (t :: ts) := by
  rw [handlersAt, bind_of_ok (peek_cons rfl)]
  refine congrFun ?_ (t :: ts)
  split
  case h_1 hk => cases hk
  case h_2 hk => exact absurd (Option.some.inj hk) h
  case h_3 => rfl

/-! ## What is read is spelled by the tokens taken -/

theorem spelled_of_moreParameters {d : Nat} {ts rest ps : List Token}
    (h : moreParameters d ts = .ok ps rest) :
    ∃ ys closing, ts = ys ++ closing :: rest ∧ closing.kind = .rightParen ∧
      ps.all (fun p => isParameter p.kind) = true ∧
      ∀ p : Token, ParametersYield (p :: ps) (p :: ys) := by
  induction d generalizing ts ps with
  | zero => exact absurd h fail_ne_ok
  | succ d ih =>
    simp only [moreParameters, bind_eq_ok] at h
    obtain ⟨o, mid, hacc, h⟩ := h
    cases o with
    | some comma =>
      simp only [accept_eq_some, beq_iff_eq, bind_eq_ok, expectThat_eq_ok, pure_eq_ok] at hacc h
      obtain ⟨rfl, hcomma⟩ := hacc
      obtain ⟨next, _, ⟨rfl, hnext⟩, others, _, hothers, rfl, rfl⟩ := h
      obtain ⟨ys, closing, rfl, hk, hall, hyield⟩ := ih hothers
      refine ⟨comma :: next :: ys, closing, rfl, hk, ?_, fun p => .more hcomma (hyield next)⟩
      rw [List.all_cons, hnext, hall]
      rfl
    | none =>
      simp only [accept_eq_none, bind_eq_ok, expect_eq_ok, pure_eq_ok] at hacc h
      obtain ⟨rfl, _⟩ := hacc
      obtain ⟨closing, _, ⟨rfl, hk⟩, rfl, rfl⟩ := h
      exact ⟨[], closing, rfl, hk, rfl, fun p => .last⟩

theorem spelled_of_parameters {d : Nat} {ts rest ps : List Token}
    (h : parameters d ts = .ok ps rest) :
    ∃ ys, ts = ys ++ rest ∧ SignatureYields ps ys ∧
      ps.all (fun p => isParameter p.kind) = true := by
  simp only [parameters, bind_eq_ok] at h
  obtain ⟨o, mid, hacc, h⟩ := h
  cases o with
  | none =>
    simp only [accept_eq_none, pure_eq_ok] at hacc h
    obtain ⟨rfl, _⟩ := hacc
    obtain ⟨rfl, rfl⟩ := h
    exact ⟨[], rfl, .absent, rfl⟩
  | some opening =>
    simp only [accept_eq_some, beq_iff_eq, bind_eq_ok] at hacc h
    obtain ⟨rfl, hopen⟩ := hacc
    obtain ⟨o, mid', hacc, h⟩ := h
    cases o with
    | some closing =>
      simp only [accept_eq_some, beq_iff_eq, pure_eq_ok] at hacc h
      obtain ⟨rfl, hclose⟩ := hacc
      obtain ⟨rfl, rfl⟩ := h
      exact ⟨[opening, closing], rfl, .empty hopen hclose, rfl⟩
    | none =>
      simp only [accept_eq_none, bind_eq_ok, expectThat_eq_ok, pure_eq_ok] at hacc h
      obtain ⟨rfl, _⟩ := hacc
      obtain ⟨first, _, ⟨rfl, hfirst⟩, others, _, hothers, rfl, rfl⟩ := h
      obtain ⟨ys, closing, rfl, hk, hall, hyield⟩ := spelled_of_moreParameters hothers
      refine ⟨opening :: (first :: ys) ++ [closing], by simp,
        .listed hopen (hyield first) hk, ?_⟩
      rw [List.all_cons, hfirst, hall]
      rfl

theorem spelled_of_condition {opening : Expected} {ts rest : List Token} {e : Expr}
    (h : condition opening ts = .ok e rest) :
    ∃ left ys right brace, ts = left :: ys ++ right :: brace :: rest ∧
      left.kind = .leftParen ∧ e.Yields ys ∧ e.wellFormed = true ∧
      right.kind = .rightParen ∧ brace.kind = .leftBrace := by
  simp only [condition, bind_eq_ok, expect_eq_ok, pure_eq_ok] at h
  obtain ⟨left, _, ⟨rfl, hl⟩, test, mid, htest, right, _, ⟨rfl, hr⟩, brace, _, ⟨rfl, hb⟩, rfl,
    rfl⟩ := h
  obtain ⟨ys, rfl, hs⟩ := spelled_of_expression htest
  exact ⟨left, ys, right, brace, rfl, hl, hs.yields, hs.wellFormed, hr, hb⟩

/-- An expression statement without a semicolon may at least stand before what cannot be taken
for more of it. -/
def AllowsApart (after : Expr → Option Token → Prop) : Prop :=
  ∀ (e : Expr) (next : Option Token), e.Apart next → after e next

section

variable {after : Expr → Option Token → Prop}

theorem spelled_of_expressionStatement (hafter : AllowsApart after) {ts rest : List Token}
    {s : Stmt} (h : expressionStatement ts = .ok s rest) :
    ∃ ys, ts = ys ++ rest ∧ s.Yields after ys rest.head? ∧ s.wellFormed = true := by
  simp only [expressionStatement, bind_eq_ok, pure_eq_ok] at h
  obtain ⟨value, mid, hvalue, o, _, hacc, rfl, rfl⟩ := h
  obtain ⟨ys, rfl, hs⟩ := spelled_of_expression hvalue
  cases o with
  | some semicolon =>
    obtain ⟨rfl, hk⟩ := accept_eq_some.mp hacc
    exact ⟨ys ++ [semicolon], by simp, .terminated hs.yields (beq_iff_eq.mp hk), hs.wellFormed⟩
  | none =>
    obtain ⟨rfl, hno⟩ := accept_eq_none.mp hacc
    refine ⟨ys, rfl, .bare hs.yields (hafter _ _ fun t ht => ?_), hs.wellFormed⟩
    obtain ⟨hlt, hparen⟩ := hs.ends t ht
    refine ⟨beq_eq_false_iff_ne.mp (hno t ht), ?_, hparen⟩
    cases hp : t.kind.precedence? with
    | none => rfl
    | some m => exact absurd (hlt m hp) (Nat.not_lt_zero m)

mutual

theorem spelled_of_statementAt (hafter : AllowsApart after) :
    ∀ {d : Nat} {ts rest : List Token} {s : Stmt}, statementAt d ts = .ok s rest →
      ∃ ys, ts = ys ++ rest ∧ s.Yields after ys rest.head? ∧ s.wellFormed = true
  | 0, _, _, _, h => absurd h fail_ne_ok
  | d + 1, ts, rest, s, h => by
    -- One case for each first word in the order of `isStatementWord`, then expressions.
    by_cases hword : ∃ t us, ts = t :: us ∧ isStatementWord t.kind
    · obtain ⟨t, ts, rfl, hk | hk | hk | hk | hk⟩ := hword
      · simp only [statementAt_champion hk, bind_eq_ok, pure_eq_ok] at h
        obtain ⟨c, _, hc, rfl, rfl⟩ := h
        obtain ⟨ys, heq, hwf, hyield⟩ := spelled_of_championAt hafter hc
        exact ⟨ys, heq, hyield _, hwf⟩
      · simp only [statementAt_if hk, bind_eq_ok, pure_eq_ok] at h
        obtain ⟨test, mid, htest, thenBody, mid', hthen, elseBody, _, helse, rfl, rfl⟩ := h
        obtain ⟨left, ys, right, brace, rfl, hl, hyield, hwf, hr, hb⟩ := spelled_of_condition htest
        obtain ⟨zs, close, rfl, hclose, hyields, hwfs⟩ := spelled_of_bodyAt hafter hthen
        rcases spelled_of_elseAt hafter helse with ⟨rfl, rfl⟩ |
          ⟨ss, other, us, rfl, rfl, ho, hss, hwfss⟩
        · refine ⟨t :: left :: ys ++ right :: (brace :: zs ++ [close]), by simp,
            .conditional hk hl hyield hr (.braced hb hyields hclose), ?_⟩
          rw [Stmt.wellFormed, hwf, hwfs]
          rfl
        · refine ⟨t :: left :: ys ++ right :: (brace :: zs ++ [close]) ++ other :: us, by simp,
            .alternative hk hl hyield hr (.braced hb hyields hclose) ho hss, ?_⟩
          rw [Stmt.wellFormed, hwf, hwfs, elseWellFormed, hwfss]
          rfl
      · simp only [statementAt_while hk, bind_eq_ok, pure_eq_ok] at h
        obtain ⟨test, mid, htest, body, _, hbody, rfl, rfl⟩ := h
        obtain ⟨left, ys, right, brace, rfl, hl, hyield, hwf, hr, hb⟩ := spelled_of_condition htest
        obtain ⟨zs, close, rfl, hclose, hyields, hwfs⟩ := spelled_of_bodyAt hafter hbody
        refine ⟨t :: left :: ys ++ right :: (brace :: zs ++ [close]), by simp,
          .loop hk hl hyield hr (.braced hb hyields hclose), ?_⟩
        rw [Stmt.wellFormed, hwf, hwfs]
        rfl
      · simp only [statementAt_combo hk, bind_eq_ok, expect_eq_ok, pure_eq_ok] at h
        obtain ⟨brace, _, ⟨rfl, hb⟩, body, _, hbody, rfl, rfl⟩ := h
        obtain ⟨ys, close, rfl, hclose, hyields, hwf⟩ := spelled_of_bodyAt hafter hbody
        exact ⟨t :: (brace :: ys ++ [close]), by simp, .combo hk (.braced hb hyields hclose), hwf⟩
      · simp only [statementAt_block hk, bind_eq_ok, pure_eq_ok] at h
        obtain ⟨body, _, hbody, rfl, rfl⟩ := h
        obtain ⟨ys, close, rfl, hclose, hyields, hwf⟩ := spelled_of_bodyAt hafter hbody
        exact ⟨t :: ys ++ [close], by simp, .block (.braced hk hyields hclose), hwf⟩
    · rw [statementAt_expression] at h
      · exact spelled_of_expressionStatement hafter h
      · intro t ht hk
        cases ts with
        | nil => cases ht
        | cons u us =>
          obtain rfl : u = t := by simpa using ht
          exact hword ⟨u, us, rfl, hk⟩

theorem spelled_of_bodyAt (hafter : AllowsApart after) :
    ∀ {d : Nat} {closing : Expected} {ts rest : List Token} {ss : List Stmt},
      bodyAt d closing ts = .ok ss rest →
      ∃ ys brace, ts = ys ++ brace :: rest ∧ brace.kind = .rightBrace ∧
        StatementsYield after ss ys (some brace) ∧ bodyWellFormed ss = true
  | 0, _, _, _, _, h => absurd h fail_ne_ok
  | d + 1, closing, ts, rest, ss, h => by
    cases ts with
    | nil => cases h
    | cons t ts =>
      by_cases ht : t.kind = .rightBrace
      · rw [bodyAt_close ht] at h
        cases h
        exact ⟨[], t, rfl, ht, .nil, rfl⟩
      · simp only [bodyAt_statement ht, bind_eq_ok, pure_eq_ok] at h
        obtain ⟨s, mid, hs, ss, _, hss, rfl, rfl⟩ := h
        obtain ⟨ys, hys, hyield, hwf⟩ := spelled_of_statementAt hafter hs
        obtain ⟨zs, brace, rfl, hk, hyields, hwfs⟩ := spelled_of_bodyAt hafter hss
        refine ⟨ys ++ zs, brace, by simp [hys], hk, .cons ?_ hyields, ?_⟩
        · simpa [List.head?_append] using hyield
        · rw [bodyWellFormed, hwf, hwfs]
          rfl

theorem spelled_of_elseAt (hafter : AllowsApart after) :
    ∀ {d : Nat} {ts rest : List Token} {body : Option (List Stmt)},
      elseAt d ts = .ok body rest →
      (body = none ∧ ts = rest) ∨
        ∃ ss other ys, body = some ss ∧ ts = other :: ys ++ rest ∧ other.kind = .elseWord ∧
          BodyYields after ss ys ∧ bodyWellFormed ss = true
  | 0, _, _, _, h => absurd h fail_ne_ok
  | d + 1, ts, rest, body, h => by
    simp only [elseAt, bind_eq_ok] at h
    obtain ⟨o, mid, hacc, h⟩ := h
    cases o with
    | none =>
      simp only [accept_eq_none, pure_eq_ok] at hacc h
      obtain ⟨rfl, _⟩ := hacc
      exact .inl ⟨h.1.symm, h.2⟩
    | some other =>
      simp only [accept_eq_some, beq_iff_eq, bind_eq_ok, expect_eq_ok, pure_eq_ok] at hacc h
      obtain ⟨rfl, ho⟩ := hacc
      obtain ⟨brace, _, ⟨rfl, hb⟩, ss, _, hss, rfl, rfl⟩ := h
      obtain ⟨ys, close, rfl, hk, hyields, hwf⟩ := spelled_of_bodyAt hafter hss
      exact .inr ⟨ss, other, brace :: ys ++ [close], rfl, by simp, ho, .braced hb hyields hk, hwf⟩

theorem spelled_of_championAt (hafter : AllowsApart after) :
    ∀ {d : Nat} {ts rest : List Token} {c : Champion}, championAt d ts = .ok c rest →
      ∃ ys, ts = ys ++ rest ∧ c.wellFormed = true ∧
        ∀ next, (Stmt.champion c).Yields after ys next
  | 0, _, _, _, h => absurd h fail_ne_ok
  | d + 1, ts, rest, c, h => by
    simp only [championAt, bind_eq_ok, expect_eq_ok, pure_eq_ok] at h
    obtain ⟨word, _, ⟨rfl, hw⟩, name, _, ⟨rfl, hn⟩, brace, _, ⟨rfl, hb⟩, hs, _, hhs, rfl, rfl⟩ := h
    obtain ⟨ys, close, rfl, hk, hyields, hwf⟩ := spelled_of_handlersAt hafter hhs
    refine ⟨word :: name :: brace :: ys ++ [close], by simp, ?_,
      fun _ => .champion hw hn hb hyields hk⟩
    rw [Champion.wellFormed]
    exact hwf

theorem spelled_of_handlersAt (hafter : AllowsApart after) :
    ∀ {d : Nat} {ts rest : List Token} {hs : List Handler}, handlersAt d ts = .ok hs rest →
      ∃ ys brace, ts = ys ++ brace :: rest ∧ brace.kind = .rightBrace ∧
        HandlersYield after hs ys ∧ handlersWellFormed hs = true
  | 0, _, _, _, h => absurd h fail_ne_ok
  | d + 1, ts, rest, hs, h => by
    cases ts with
    | nil => cases h
    | cons t ts =>
      by_cases ht : t.kind = .rightBrace
      · rw [handlersAt_close ht] at h
        cases h
        exact ⟨[], t, rfl, ht, .nil, rfl⟩
      · simp only [handlersAt_handler ht, bind_eq_ok, expectThat_eq_ok, expect_eq_ok,
          pure_eq_ok] at h
        obtain ⟨event, _, ⟨hts, he⟩, params, _, hparams, brace, _, ⟨rfl, hb⟩, body, _, hbody,
          hs, _, hhs, rfl, rfl⟩ := h
        cases hts
        obtain ⟨xs, rfl, hsig, hall⟩ := spelled_of_parameters hparams
        obtain ⟨ys, close, rfl, hk, hyield, hwf⟩ := spelled_of_bodyAt hafter hbody
        obtain ⟨zs, last, rfl, hlast, hyields, hwfs⟩ := spelled_of_handlersAt hafter hhs
        refine ⟨t :: xs ++ (brace :: ys ++ [close]) ++ zs, last, by simp, hlast,
          .cons hsig (.braced hb hyield hk) hyields, ?_⟩
        have hall' : params.all (fun p => p.kind == .number || p.kind == .string ||
            p.kind.isName) = true := hall
        rw [handlersWellFormed, Handler.wellFormed, he, hall', hwf, hwfs]
        rfl

end

end

/-! ## Spelled statements are read back -/

theorem moreParameters_of_yields {qs ts : List Token} (h : ParametersYield qs ts) :
    ∃ p ps us, qs = p :: ps ∧ ts = p :: us ∧
      ∀ (d : Nat) (closing : Token) (rest : List Token), closing.kind = .rightParen →
        ps.all (fun p => isParameter p.kind) = true → us.length + 1 ≤ d →
        moreParameters d (us ++ closing :: rest) = .ok ps rest := by
  induction h with
  | @last p =>
    refine ⟨p, [], [], rfl, rfl, fun d closing rest hk _ hd => ?_⟩
    obtain ⟨d, rfl⟩ : ∃ d', d = d' + 1 := ⟨d - 1, by omega⟩
    have hacc : accept (· == .comma) (closing :: rest) = .ok none (closing :: rest) :=
      accept_of_ne (by simp [hk])
    have hclose : expect .rightParen .parametersClosing (closing :: rest) = .ok closing rest :=
      expect_cons hk
    rw [List.nil_append, moreParameters, bind_of_ok hacc]
    show (expect .rightParen .parametersClosing >>= _) _ = _
    rw [bind_of_ok hclose]
    rfl
  | @more p q comma ps ts hc _ ih =>
    obtain ⟨q', ps', us, hqs, rfl, ih⟩ := ih
    cases hqs
    refine ⟨p, q :: ps, comma :: q :: us, rfl, rfl, fun d closing rest hk hall hd => ?_⟩
    obtain ⟨d, rfl⟩ : ∃ d', d = d' + 1 := ⟨d - 1, by omega⟩
    rw [List.all_cons, Bool.and_eq_true] at hall
    simp only [List.length_cons] at hd
    have hnext : expectThat isParameter .parameter (q :: (us ++ closing :: rest)) =
        .ok q (us ++ closing :: rest) := expectThat_eq_ok.mpr ⟨rfl, hall.1⟩
    rw [List.cons_append, List.cons_append, moreParameters, bind_of_ok (accept_cons hc)]
    show (expectThat isParameter .parameter >>= _) _ = _
    rw [bind_of_ok hnext, bind_of_ok (ih d closing rest hk hall.2 (by omega))]
    rfl

theorem parameters_of_yields {d : Nat} {ps ts rest : List Token} (h : SignatureYields ps ts)
    (hall : ps.all (fun p => isParameter p.kind) = true)
    (hno : ∀ t ∈ rest.head?, t.kind ≠ .leftParen) (hd : ts.length ≤ d) :
    parameters d (ts ++ rest) = .ok ps rest := by
  cases h with
  | absent =>
    rw [List.nil_append, parameters, bind_of_ok (accept_of_ne hno)]
    rfl
  | @empty opening closing ho hc =>
    show parameters d (opening :: closing :: rest) = _
    rw [parameters, bind_of_ok (accept_cons ho)]
    show (accept (· == .rightParen) >>= _) _ = _
    rw [bind_of_ok (accept_cons hc)]
    rfl
  | @listed opening closing ps ts ho hp hc =>
    obtain ⟨p, ps, us, rfl, rfl, hmore⟩ := moreParameters_of_yields hp
    rw [List.all_cons, Bool.and_eq_true] at hall
    simp only [List.cons_append, List.append_assoc, List.nil_append, List.length_cons,
      List.length_append, List.length_nil] at hd ⊢
    have hne : accept (· == .rightParen) (p :: (us ++ closing :: rest)) =
        .ok none (p :: (us ++ closing :: rest)) := by
      refine accept_of_ne fun t ht hk => ?_
      obtain rfl : p = t := by simpa using ht
      rw [hk] at hall
      cases hall.1
    have hfirst : expectThat isParameter .parameter (p :: (us ++ closing :: rest)) =
        .ok p (us ++ closing :: rest) := expectThat_eq_ok.mpr ⟨rfl, hall.1⟩
    rw [parameters, bind_of_ok (accept_cons ho)]
    show (accept (· == .rightParen) >>= _) _ = _
    rw [bind_of_ok hne]
    show (expectThat isParameter .parameter >>= _) _ = _
    rw [bind_of_ok hfirst, bind_of_ok (hmore d closing rest hc hall.2 (by omega))]
    rfl

theorem condition_of_yields {opening : Expected} {left right brace : Token} {e : Expr}
    {ts rest : List Token} (hl : left.kind = .leftParen) (h : e.Yields ts)
    (hwf : e.wellFormed = true) (hr : right.kind = .rightParen) (hb : brace.kind = .leftBrace) :
    condition opening (left :: (ts ++ right :: brace :: rest)) = .ok e rest := by
  have htest : expression (ts ++ right :: brace :: rest) = .ok e (right :: brace :: rest) :=
    expression_of_yields h hwf (endsBefore_of_kind (by rw [hr]; rfl) (by rw [hr]; decide))
  rw [condition, bind_of_ok (expect_cons hl), bind_of_ok htest, bind_of_ok (expect_cons hr),
    bind_of_ok (expect_cons hb)]
  rfl

theorem expressionStatement_terminated {e : Expr} {semicolon : Token} {ts rest : List Token}
    (h : e.Yields ts) (hwf : e.wellFormed = true) (hs : semicolon.kind = .semicolon) :
    expressionStatement (ts ++ semicolon :: rest) = .ok (.expression e) rest := by
  have hvalue : expression (ts ++ semicolon :: rest) = .ok e (semicolon :: rest) :=
    expression_of_yields h hwf (endsBefore_of_kind (by rw [hs]; rfl) (by rw [hs]; decide))
  rw [expressionStatement, bind_of_ok hvalue, bind_of_ok (accept_cons hs)]
  rfl

theorem expressionStatement_bare {e : Expr} {ts rest : List Token} (h : e.Yields ts)
    (hwf : e.wellFormed = true) (ha : e.Apart rest.head?) :
    expressionStatement (ts ++ rest) = .ok (.expression e) rest := by
  have hends : e.EndsBefore 0 rest := by
    intro t ht
    obtain ⟨_, hp, hparen⟩ := ha t ht
    refine ⟨fun m hm => ?_, hparen⟩
    rw [hp] at hm
    cases hm
  have hacc : accept (· == .semicolon) rest = .ok none rest := accept_of_ne fun t ht => (ha t ht).1
  rw [expressionStatement, bind_of_ok (expression_of_yields h hwf hends), bind_of_ok hacc]
  rfl

/-- A statement that starts as an expression does is an expression statement. -/
theorem statementAt_of_opens {d : Nat} {ts rest : List Token}
    (h : ∃ t us, ts = t :: us ∧ t.kind.opensExpression = true) :
    statementAt (d + 1) (ts ++ rest) = expressionStatement (ts ++ rest) := by
  obtain ⟨t, us, rfl, ht⟩ := h
  refine statementAt_expression fun u hu hword => ?_
  obtain rfl : t = u := by simpa using hu
  rcases hword with hk | hk | hk | hk | hk <;> rw [hk] at ht <;> cases ht

/-- The tokens of a body after its opening brace are read as its statements. -/
def BodyReadable (ss : List Stmt) (ts : List Token) : Prop :=
  ∀ (d : Nat) (closing : Expected) (rest : List Token), 10 * (ts ++ rest).length + 2 ≤ d →
    bodyAt d closing (ts ++ rest) = .ok ss rest

theorem elseAt_of_readable {d : Nat} {other brace : Token} {ss : List Stmt} {ts rest : List Token}
    (ho : other.kind = .elseWord) (hb : brace.kind = .leftBrace) (h : BodyReadable ss ts)
    (hd : 10 * (ts ++ rest).length + 3 ≤ d) :
    elseAt d (other :: brace :: (ts ++ rest)) = .ok (some ss) rest := by
  obtain ⟨d, rfl⟩ : ∃ d', d = d' + 1 := ⟨d - 1, by omega⟩
  rw [elseAt, bind_of_ok (accept_cons ho)]
  show (expect .leftBrace .elseOpening >>= _) _ = _
  rw [bind_of_ok (expect_cons hb), bind_of_ok (h d .elseClosing rest (by omega))]
  rfl

theorem elseAt_absent {d : Nat} {rest : List Token} (h : ∀ t ∈ rest.head?, t.kind ≠ .elseWord) :
    elseAt (d + 1) rest = .ok none rest := by
  rw [elseAt, bind_of_ok (accept_of_ne h)]
  rfl

theorem statementAt_conditional {d : Nat} {word left right brace : Token} {e : Expr}
    {ss : List Stmt} {ts us rest mid : List Token} {elseBody : Option (List Stmt)}
    (hw : word.kind = .ifWord) (hl : left.kind = .leftParen) (h : e.Yields ts)
    (hwf : e.wellFormed = true) (hr : right.kind = .rightParen) (hb : brace.kind = .leftBrace)
    (hss : BodyReadable ss us) (hd : 10 * (us ++ mid).length + 2 ≤ d)
    (helse : elseAt d mid = .ok elseBody rest) :
    statementAt (d + 1) (word :: left :: (ts ++ right :: brace :: (us ++ mid))) =
      .ok (.conditional e ss elseBody) rest := by
  rw [statementAt_if hw, bind_of_ok (condition_of_yields hl h hwf hr hb),
    bind_of_ok (hss d .thenClosing mid hd), bind_of_ok helse]
  rfl

theorem statementAt_loop {d : Nat} {word left right brace : Token} {e : Expr} {ss : List Stmt}
    {ts us rest : List Token} (hw : word.kind = .whileWord) (hl : left.kind = .leftParen)
    (h : e.Yields ts) (hwf : e.wellFormed = true) (hr : right.kind = .rightParen)
    (hb : brace.kind = .leftBrace) (hss : BodyReadable ss us)
    (hd : 10 * (us ++ rest).length + 2 ≤ d) :
    statementAt (d + 1) (word :: left :: (ts ++ right :: brace :: (us ++ rest))) =
      .ok (.loop e ss) rest := by
  rw [statementAt_while hw, bind_of_ok (condition_of_yields hl h hwf hr hb),
    bind_of_ok (hss d .whileClosing rest hd)]
  rfl

theorem statementAt_declaration {d : Nat} {word name opening : Token} {handlers : List Handler}
    {ts rest : List Token} (hw : word.kind = .champion) (hn : name.kind = .identifier)
    (ho : opening.kind = .leftBrace) (h : handlersAt d ts = .ok handlers rest) :
    statementAt (d + 2) (word :: name :: opening :: ts) =
      .ok (.champion ⟨name, handlers⟩) rest := by
  have hchampion : championAt (d + 1) (word :: name :: opening :: ts) =
      .ok ⟨name, handlers⟩ rest := by
    rw [championAt, bind_of_ok (expect_cons hw), bind_of_ok (expect_cons hn),
      bind_of_ok (expect_cons ho), bind_of_ok h]
    rfl
  rw [statementAt_champion hw, bind_of_ok hchampion]
  rfl

mutual

theorem statementAt_of_yields {s : Stmt} {ts : List Token} {next : Option Token}
    (h : s.Yields Expr.Apart ts next) (hwf : s.wellFormed = true) {d : Nat} {rest : List Token}
    (hnext : rest.head? = next) (helse : ∀ t ∈ next, t.kind ≠ .elseWord)
    (hd : 10 * (ts ++ rest).length + 1 ≤ d) : statementAt d (ts ++ rest) = .ok s rest := by
  obtain ⟨d, rfl⟩ : ∃ d', d = d' + 1 := ⟨d - 1, by omega⟩
  cases h with
  | terminated hv hs =>
    rw [List.append_assoc, statementAt_of_opens (hv.opens hwf)]
    exact expressionStatement_terminated hv hwf hs
  | bare hv ha =>
    rw [statementAt_of_opens (hv.opens hwf)]
    exact expressionStatement_bare hv hwf (hnext ▸ ha)
  | block hb =>
    obtain ⟨brace, us, rfl, hk, hread⟩ := bodyReadable_of_yields hb hwf
    simp only [List.cons_append, List.length_cons] at hd ⊢
    rw [statementAt_block hk, bind_of_ok (hread d .blockClosing rest (by omega))]
    rfl
  | conditional hw ho ht hc hb =>
    simp only [Stmt.wellFormed, Bool.and_eq_true] at hwf
    obtain ⟨brace, us, rfl, hk, hread⟩ := bodyReadable_of_yields hb hwf.1.2
    simp only [List.cons_append, List.append_assoc, List.length_cons, List.length_append] at hd ⊢
    apply statementAt_conditional hw ho ht hwf.1.1 hc hk hread
    · simp only [List.length_append]
      omega
    · obtain ⟨d, rfl⟩ : ∃ d', d = d' + 1 := ⟨d - 1, by omega⟩
      exact elseAt_absent (hnext ▸ helse)
  | alternative hw ho ht hc hb he hd' =>
    simp only [Stmt.wellFormed, elseWellFormed, Bool.and_eq_true] at hwf
    obtain ⟨brace, us, rfl, hk, hread⟩ := bodyReadable_of_yields hb hwf.1.2
    obtain ⟨brace', vs, rfl, hk', hread'⟩ := bodyReadable_of_yields hd' hwf.2
    simp only [List.cons_append, List.append_assoc, List.length_cons, List.length_append] at hd ⊢
    apply statementAt_conditional hw ho ht hwf.1.1 hc hk hread
    · simp only [List.length_append, List.length_cons]
      omega
    · apply elseAt_of_readable he hk' hread'
      simp only [List.length_append]
      omega
  | loop hw ho ht hc hb =>
    simp only [Stmt.wellFormed, Bool.and_eq_true] at hwf
    obtain ⟨brace, us, rfl, hk, hread⟩ := bodyReadable_of_yields hb hwf.2
    simp only [List.cons_append, List.append_assoc, List.length_cons, List.length_append] at hd ⊢
    apply statementAt_loop hw ho ht hwf.1 hc hk hread
    simp only [List.length_append]
    omega
  | combo hw hb =>
    obtain ⟨brace, us, rfl, hk, hread⟩ := bodyReadable_of_yields hb hwf
    simp only [List.cons_append, List.length_cons] at hd ⊢
    rw [statementAt_combo hw, bind_of_ok (expect_cons hk),
      bind_of_ok (hread d .comboClosing rest (by omega))]
    rfl
  | champion hw hn ho hh hc =>
    simp only [List.cons_append, List.append_assoc, List.nil_append, List.length_cons] at hd ⊢
    obtain ⟨d, rfl⟩ : ∃ d', d = d' + 1 := ⟨d - 1, by omega⟩
    exact statementAt_declaration hw hn ho (handlersAt_of_yields hh hwf hc (by omega))
termination_by (sizeOf s, 0)

theorem bodyAt_of_yields {ss : List Stmt} {ts : List Token} {next : Option Token}
    (h : StatementsYield Expr.Apart ss ts next) (hwf : bodyWellFormed ss = true) {d : Nat}
    {closing : Expected} {brace : Token} {rest : List Token} (hnext : next = some brace)
    (hk : brace.kind = .rightBrace) (hd : 10 * (ts ++ brace :: rest).length + 2 ≤ d) :
    bodyAt d closing (ts ++ brace :: rest) = .ok ss rest := by
  obtain ⟨d, rfl⟩ : ∃ d', d = d' + 1 := ⟨d - 1, by omega⟩
  cases h with
  | nil => exact bodyAt_close hk
  | @cons s ss ts us _ hs hss =>
    rw [bodyWellFormed, Bool.and_eq_true] at hwf
    obtain ⟨t, vs, hts, ht, _⟩ := hs.opens hwf.1
    have hfirst : statementAt d (ts ++ (us ++ brace :: rest)) = .ok s (us ++ brace :: rest) := by
      apply statementAt_of_yields hs hwf.1
      · rw [List.head?_append, hnext, List.head?_cons]
      · intro u hu
        rcases Option.or_eq_some_iff.mp hu with hu | ⟨_, hu⟩
        · exact (hss.opens hwf.2 u hu).2
        · obtain rfl : brace = u := by simpa [hnext] using hu
          rw [hk]
          decide
      · rw [List.append_assoc] at hd
        omega
    have hrest : bodyAt d closing (us ++ brace :: rest) = .ok ss rest := by
      apply bodyAt_of_yields hss hwf.2 hnext hk
      rw [hts] at hd
      simp only [List.length_append, List.length_cons] at hd ⊢
      omega
    rw [List.append_assoc]
    subst hts
    rw [List.cons_append, bodyAt_statement ht]
    rw [List.cons_append] at hfirst
    rw [bind_of_ok hfirst, bind_of_ok hrest]
    rfl
termination_by (sizeOf ss, 0)

theorem bodyReadable_of_yields {ss : List Stmt} {ts : List Token}
    (h : BodyYields Expr.Apart ss ts) (hwf : bodyWellFormed ss = true) :
    ∃ brace us, ts = brace :: us ∧ brace.kind = .leftBrace ∧ BodyReadable ss us := by
  cases h with
  | @braced opening closing _ ts ho hs hc =>
    refine ⟨opening, ts ++ [closing], rfl, ho, fun d expected rest hd => ?_⟩
    rw [List.append_assoc] at hd ⊢
    exact bodyAt_of_yields hs hwf rfl hc hd
termination_by (sizeOf ss, 1)

theorem handlersAt_of_yields {hs : List Handler} {ts : List Token}
    (h : HandlersYield Expr.Apart hs ts) (hwf : handlersWellFormed hs = true) {d : Nat}
    {brace : Token} {rest : List Token} (hk : brace.kind = .rightBrace)
    (hd : 10 * (ts ++ brace :: rest).length + 2 ≤ d) :
    handlersAt d (ts ++ brace :: rest) = .ok hs rest := by
  obtain ⟨d, rfl⟩ : ∃ d', d = d' + 1 := ⟨d - 1, by omega⟩
  cases h with
  | nil => exact handlersAt_close hk
  | @cons event params body hs ts _ vs hp hb hh =>
    simp only [handlersWellFormed, Handler.wellFormed, Bool.and_eq_true] at hwf
    obtain ⟨⟨⟨he, hall⟩, hwf⟩, hwfs⟩ := hwf
    obtain ⟨opening, us, rfl, ho, hread⟩ := bodyReadable_of_yields hb hwf
    simp only [List.cons_append, List.append_assoc, List.length_cons, List.length_append] at hd ⊢
    have hne : event.kind ≠ .rightBrace := by
      intro hk'
      rw [hk'] at he
      cases he
    have hevent : expectThat TokenKind.isEvent .eventName
        (event :: (ts ++ opening :: (us ++ (vs ++ brace :: rest)))) =
        .ok event (ts ++ opening :: (us ++ (vs ++ brace :: rest))) :=
      expectThat_eq_ok.mpr ⟨rfl, he⟩
    have hparams : parameters d (ts ++ opening :: (us ++ (vs ++ brace :: rest))) =
        .ok params (opening :: (us ++ (vs ++ brace :: rest))) :=
      parameters_of_yields hp hall (by simp [ho]) (by omega)
    have hbody : bodyAt d .handlerClosing (us ++ (vs ++ brace :: rest)) =
        .ok body (vs ++ brace :: rest) := by
      apply hread
      simp only [List.length_append, List.length_cons]
      omega
    have hrest : handlersAt d (vs ++ brace :: rest) = .ok hs rest := by
      apply handlersAt_of_yields hh hwfs hk
      simp only [List.length_append, List.length_cons]
      omega
    rw [handlersAt_handler hne, bind_of_ok hevent, bind_of_ok hparams,
      bind_of_ok (expect_cons ho), bind_of_ok hbody, bind_of_ok hrest]
    rfl
termination_by (sizeOf hs, 0)

end

end Parser
end RiftScript
