/-
Reading an expression is the converse of spelling it.

What `expressionAt` reads at a level is spelled by the tokens it took, holds together at least as
tightly as the level asks, and ends as late as it can: what follows could not have been read as
more of it. In the other direction, the tokens that spell such an expression are read back as it,
whatever follows them, as long as that could not be read as more of it.
-/
import RiftScript.Proofs.Grammar
import RiftScript.Proofs.Parsing.Steps

namespace RiftScript

/-! ## Levels -/

namespace Level

/-- How tightly an expression of a level holds together at least. -/
def rank : Level → Nat
  | disjunction => 0
  | conjunction => 1
  | equality => 2
  | comparison => 3
  | term => 4
  | factor => 5
  | unary => 6

theorem rank_tighter {l : Level} (h : l ≠ unary) : l.tighter.rank = l.rank + 1 := by
  cases l <;> first | rfl | exact absurd rfl h

theorem rank_injective {l l' : Level} (h : l.rank = l'.rank) : l = l' := by
  cases l <;> cases l' <;> first | rfl | exact absurd h (by decide)

theorem exists_rank {n : Nat} (h : n < 6) : ∃ l : Level, l ≠ unary ∧ l.rank = n := by
  match n, h with
  | 0, _ => exact ⟨disjunction, by decide, rfl⟩
  | 1, _ => exact ⟨conjunction, by decide, rfl⟩
  | 2, _ => exact ⟨equality, by decide, rfl⟩
  | 3, _ => exact ⟨comparison, by decide, rfl⟩
  | 4, _ => exact ⟨term, by decide, rfl⟩
  | 5, _ => exact ⟨factor, by decide, rfl⟩

theorem hasOperator_iff {l : Level} {k : TokenKind} :
    l.hasOperator k = true ↔ k.precedence? = some l.rank := by
  cases l <;> cases k <;> simp [hasOperator, operators, TokenKind.precedence?, rank]

end Level

theorem TokenKind.precedence?_lt {k : TokenKind} {n : Nat} (h : k.precedence? = some n) :
    n < 6 := by
  cases k <;> simp [precedence?] at h <;> omega

namespace Expr

/-- The tokens do not go on with an operator that binds at least as tightly as `n`, nor with
arguments, unless a call ends the expression. -/
def EndsBefore (n : Nat) (e : Expr) (rest : List Token) : Prop :=
  ∀ t ∈ rest.head?, (∀ m, t.kind.precedence? = some m → m < n) ∧
    (t.kind = .leftParen → e.endsInCall = true)

/-- The tokens `ts` spell a well-formed expression that is at least as tight as `n` and ends
before `rest`, as far as operators that bind at least as tightly as `m` are concerned. -/
structure Spelled (n m : Nat) (e : Expr) (ts rest : List Token) : Prop where
  yields : e.Yields ts
  wellFormed : e.wellFormed = true
  tight : n ≤ e.tightness
  ends : e.EndsBefore m rest

theorem Spelled.weaken {n n' m : Nat} {e : Expr} {ts rest : List Token}
    (h : e.Spelled n m ts rest) (hn : n' ≤ n) : e.Spelled n' m ts rest :=
  ⟨h.yields, h.wellFormed, Nat.le_trans hn h.tight, h.ends⟩

end Expr

namespace Parser

theorem expressionAt_unary (d : Nat) :
    expressionAt (d + 1) .unary = (do
      match ← accept isUnaryOperator with
      | some operator => return .unary operator (← expressionAt d .unary)
      | none => call d) := rfl

theorem expressionAt_binary {l : Level} (h : l ≠ .unary) (d : Nat) :
    expressionAt (d + 1) l = (do
      let left ← expressionAt d l.tighter
      operations d l left) := by
  cases l <;> first | rfl | exact absurd rfl h

/-! ## What is read is spelled by the tokens taken -/

theorem isUnaryOperator_iff {k : TokenKind} : isUnaryOperator k = true ↔ k.isSign := by
  simp [isUnaryOperator, TokenKind.isSign, or_assoc]

/-- Without an operator of the level ahead, an expression ends at the level too. -/
theorem endsBefore_of_accept_none {l : Level} {e : Expr} {rest : List Token}
    (h : e.EndsBefore (l.rank + 1) rest) (hop : ∀ t ∈ rest.head?, l.hasOperator t.kind = false) :
    e.EndsBefore l.rank rest := by
  intro t ht
  obtain ⟨hlt, hparen⟩ := h t ht
  refine ⟨fun m hm => ?_, hparen⟩
  have hne : m ≠ l.rank := by
    rintro rfl
    rw [← Level.hasOperator_iff, hop t ht] at hm
    cases hm
  have := hlt m hm
  omega

/-- An operand, an operator of the level and a tighter operand make an expression of the level. -/
theorem spelled_binary {l : Level} {left right : Expr} {operator : Token}
    {ts us mid rest : List Token} (hop : l.hasOperator operator.kind = true)
    (hl : left.Spelled l.rank (l.rank + 1) ts mid)
    (hr : right.Spelled (l.rank + 1) (l.rank + 1) us rest) :
    (Expr.binary left operator right).Spelled l.rank (l.rank + 1) (ts ++ operator :: us) rest where
  yields := .binary hl.yields hr.yields
  wellFormed := by
    have hp := Level.hasOperator_iff.mp hop
    have h1 := hl.tight
    have h2 := hr.tight
    simp only [Expr.wellFormed, hp, hl.wellFormed, hr.wellFormed, Bool.and_true, Bool.and_eq_true,
      decide_eq_true_eq]
    omega
  tight := by
    simp [Expr.tightness, Level.hasOperator_iff.mp hop]
  ends := hr.ends

theorem callOf_eq_ok {callee e : Expr} {paren ts rest : List Token} {arguments : List Expr} :
    callOf callee paren arguments ts = .ok e rest ↔
      ∃ name, callee = .variable name ∧ .call name arguments = e ∧ ts = rest := by
  cases callee <;> simp [callOf, blame, pure]

mutual

theorem spelled_of_expressionAt : ∀ {d : Nat} {l : Level} {ts rest : List Token} {e : Expr},
    expressionAt d l ts = .ok e rest →
      ∃ ys, ts = ys ++ rest ∧ e.Spelled l.rank l.rank ys rest
  | 0, _, _, _, _, h => absurd h fail_ne_ok
  | d + 1, l, ts, rest, e, h => by
    by_cases hl : l = .unary
    · subst hl
      simp only [expressionAt_unary, bind_eq_ok] at h
      obtain ⟨o, mid, hacc, h⟩ := h
      cases o with
      | some operator =>
        simp only [accept_eq_some, bind_eq_ok, pure_eq_ok] at hacc h
        obtain ⟨rfl, hop⟩ := hacc
        obtain ⟨operand, mid', hr, rfl, rfl⟩ := h
        obtain ⟨ys, rfl, hs⟩ := spelled_of_expressionAt hr
        refine ⟨operator :: ys, rfl, .unary (isUnaryOperator_iff.mp hop) hs.yields, ?_,
          Nat.le_refl 6, hs.ends⟩
        simpa [Expr.wellFormed, hs.wellFormed, Level.rank] using hs.tight
      | none =>
        obtain ⟨rfl, _⟩ := accept_eq_none.mp hacc
        obtain ⟨ys, rfl, hs⟩ := spelled_of_call h
        exact ⟨ys, rfl, hs.weaken (by decide)⟩
    · simp only [expressionAt_binary hl, bind_eq_ok] at h
      obtain ⟨left, mid, hleft, hops⟩ := h
      obtain ⟨ys, rfl, hs⟩ := spelled_of_expressionAt hleft
      rw [Level.rank_tighter hl] at hs
      obtain ⟨zs, rfl, he⟩ := spelled_of_operations hl hops (hs.weaken (Nat.le_succ _))
      exact ⟨ys ++ zs, by rw [List.append_assoc], he⟩

theorem spelled_of_operations : ∀ {d : Nat} {l : Level} {left e : Expr}
    {xs ts rest : List Token}, l ≠ .unary → operations d l left ts = .ok e rest →
      left.Spelled l.rank (l.rank + 1) xs ts →
      ∃ ys, ts = ys ++ rest ∧ e.Spelled l.rank l.rank (xs ++ ys) rest
  | 0, _, _, _, _, _, _, _, h, _ => absurd h fail_ne_ok
  | d + 1, l, left, e, xs, ts, rest, hl, h, hleft => by
    simp only [operations, bind_eq_ok] at h
    obtain ⟨o, mid, hacc, h⟩ := h
    cases o with
    | some operator =>
      simp only [accept_eq_some, bind_eq_ok] at hacc h
      obtain ⟨rfl, hop⟩ := hacc
      obtain ⟨right, mid', hright, hops⟩ := h
      obtain ⟨ys, rfl, hs⟩ := spelled_of_expressionAt hright
      rw [Level.rank_tighter hl] at hs
      obtain ⟨zs, rfl, he⟩ := spelled_of_operations hl hops (spelled_binary hop hleft hs)
      refine ⟨operator :: ys ++ zs, by simp, ?_⟩
      simpa using he
    | none =>
      simp only [accept_eq_none, pure_eq_ok] at hacc h
      obtain ⟨rfl, hop⟩ := hacc
      obtain ⟨rfl, rfl⟩ := h
      refine ⟨[], rfl, ?_⟩
      rw [List.append_nil]
      exact ⟨hleft.yields, hleft.wellFormed, hleft.tight,
        endsBefore_of_accept_none hleft.ends hop⟩

theorem spelled_of_call : ∀ {d : Nat} {ts rest : List Token} {e : Expr},
    call d ts = .ok e rest → ∃ ys, ts = ys ++ rest ∧ e.Spelled 7 6 ys rest
  | 0, _, _, _, h => absurd h fail_ne_ok
  | d + 1, ts, rest, e, h => by
    simp only [call, bind_eq_ok, ahead_eq_ok] at h
    obtain ⟨callee, mid, hprim, paren, _, ⟨rfl, rfl⟩, o, mid', hacc, h⟩ := h
    obtain ⟨ys, rfl, hyields, hwf, htight⟩ := spelled_of_primary hprim
    cases o with
    | some opening =>
      simp only [accept_eq_some, bind_eq_ok, callOf_eq_ok, beq_iff_eq] at hacc h
      obtain ⟨rfl, hopen⟩ := hacc
      obtain ⟨arguments, mid'', hargs, name, rfl, rfl, rfl⟩ := h
      obtain ⟨zs, closing, rfl, hclose, hyield, hargswf⟩ := spelled_of_arguments hargs
      cases hyields
      refine ⟨name :: opening :: zs ++ [closing], by simp, .call hopen hyield hclose, ?_,
        Nat.le_refl 7, ?_⟩
      · simpa [Expr.wellFormed, hargswf] using hwf
      · intro t _
        exact ⟨fun m hm => TokenKind.precedence?_lt hm, fun _ => rfl⟩
    | none =>
      simp only [accept_eq_none, pure_eq_ok] at hacc h
      obtain ⟨rfl, hno⟩ := hacc
      obtain ⟨rfl, rfl⟩ := h
      refine ⟨ys, rfl, hyields, hwf, htight, ?_⟩
      intro t ht
      refine ⟨fun m hm => TokenKind.precedence?_lt hm, fun hparen => ?_⟩
      have := hno t ht
      rw [hparen] at this
      cases this

/-- A primary expression is as tight as can be. -/
theorem spelled_of_primary : ∀ {d : Nat} {ts rest : List Token} {e : Expr},
    primary d ts = .ok e rest →
      ∃ ys, ts = ys ++ rest ∧ e.Yields ys ∧ e.wellFormed = true ∧ 7 ≤ e.tightness
  | 0, _, _, _, h => absurd h fail_ne_ok
  | d + 1, ts, rest, e, h => by
    cases ts with
    | nil => cases h
    | cons t ts =>
      simp only [primary] at h
      split at h
      case h_1 hk =>
        cases h
        exact ⟨[t], rfl, .yes hk, rfl, Nat.le_refl 7⟩
      case h_2 hk =>
        cases h
        exact ⟨[t], rfl, .no hk, rfl, Nat.le_refl 7⟩
      case h_3 hk =>
        cases h
        exact ⟨[t], rfl, .nil hk, rfl, Nat.le_refl 7⟩
      case h_4 hk =>
        cases h
        exact ⟨[t], rfl, .constant (.inl hk), rfl, Nat.le_refl 7⟩
      case h_5 hk =>
        cases h
        exact ⟨[t], rfl, .constant (.inr hk), rfl, Nat.le_refl 7⟩
      case h_10 hk =>
        obtain ⟨inner, ys, closing, rfl, rfl, hyields, hwf, hclose⟩ := spelled_of_group h
        exact ⟨t :: ys ++ [closing], by simp, .grouping hk hyields hclose, hwf, Nat.le_refl 7⟩
      case h_11 => cases h
      all_goals
        rename_i hk
        cases h
        exact ⟨[t], rfl, .reference, by simp [Expr.wellFormed, hk, TokenKind.isName,
          TokenKind.isGameWord], Nat.le_refl 7⟩

theorem spelled_of_group : ∀ {d : Nat} {ts rest : List Token} {e : Expr},
    group d ts = .ok e rest →
      ∃ inner ys closing, e = .grouping inner ∧ ts = ys ++ closing :: rest ∧
        inner.Yields ys ∧ inner.wellFormed = true ∧ closing.kind = .rightParen
  | 0, _, _, _, h => absurd h fail_ne_ok
  | d + 1, ts, rest, e, h => by
    simp only [group, bind_eq_ok, expect_eq_ok, pure_eq_ok] at h
    obtain ⟨inner, mid, hinner, closing, _, ⟨rfl, hk⟩, rfl, rfl⟩ := h
    obtain ⟨ys, rfl, hs⟩ := spelled_of_expressionAt hinner
    exact ⟨inner, ys, closing, rfl, rfl, hs.yields, hs.wellFormed, hk⟩

theorem spelled_of_arguments : ∀ {d : Nat} {ts rest : List Token} {es : List Expr},
    arguments d ts = .ok es rest →
      ∃ ys closing, ts = ys ++ closing :: rest ∧ closing.kind = .rightParen ∧
        ArgumentsYield es ys ∧ argumentsWellFormed es = true
  | 0, _, _, _, h => absurd h fail_ne_ok
  | d + 1, ts, rest, es, h => by
    simp only [arguments, bind_eq_ok] at h
    obtain ⟨o, mid, hacc, h⟩ := h
    cases o with
    | some closing =>
      simp only [accept_eq_some, pure_eq_ok, beq_iff_eq] at hacc h
      obtain ⟨rfl, hk⟩ := hacc
      obtain ⟨rfl, rfl⟩ := h
      exact ⟨[], closing, rfl, hk, .none, rfl⟩
    | none =>
      simp only [accept_eq_none, bind_eq_ok, pure_eq_ok] at hacc h
      obtain ⟨rfl, _⟩ := hacc
      obtain ⟨first, mid, hfirst, others, mid', hothers, rfl, rfl⟩ := h
      obtain ⟨ys, rfl, hs⟩ := spelled_of_expressionAt hfirst
      obtain ⟨zs, closing, rfl, hk, hwf, hyield⟩ := spelled_of_moreArguments hothers
      refine ⟨ys ++ zs, closing, by simp, hk, hyield hs.yields, ?_⟩
      rw [argumentsWellFormed, hs.wellFormed, hwf]
      rfl

theorem spelled_of_moreArguments : ∀ {d : Nat} {ts rest : List Token} {es : List Expr},
    moreArguments d ts = .ok es rest →
      ∃ ys closing, ts = ys ++ closing :: rest ∧ closing.kind = .rightParen ∧
        argumentsWellFormed es = true ∧
        ∀ {e : Expr} {xs : List Token}, e.Yields xs → ArgumentsYield (e :: es) (xs ++ ys)
  | 0, _, _, _, h => absurd h fail_ne_ok
  | d + 1, ts, rest, es, h => by
    simp only [moreArguments, bind_eq_ok] at h
    obtain ⟨o, mid, hacc, h⟩ := h
    cases o with
    | some comma =>
      simp only [accept_eq_some, bind_eq_ok, pure_eq_ok, beq_iff_eq] at hacc h
      obtain ⟨rfl, hcomma⟩ := hacc
      obtain ⟨next, mid, hnext, others, mid', hothers, rfl, rfl⟩ := h
      obtain ⟨ys, rfl, hs⟩ := spelled_of_expressionAt hnext
      obtain ⟨zs, closing, rfl, hk, hwf, hyield⟩ := spelled_of_moreArguments hothers
      refine ⟨comma :: ys ++ zs, closing, by simp, hk, ?_, fun he => ?_⟩
      · rw [argumentsWellFormed, hs.wellFormed, hwf]
        rfl
      · exact .more he hcomma (hyield hs.yields)
    | none =>
      simp only [accept_eq_none, bind_eq_ok, expect_eq_ok, pure_eq_ok] at hacc h
      obtain ⟨rfl, _⟩ := hacc
      obtain ⟨closing, _, ⟨rfl, hk⟩, rfl, rfl⟩ := h
      refine ⟨[], closing, rfl, hk, rfl, fun he => ?_⟩
      rw [List.append_nil]
      exact .last he

end

/-- What is read as an expression is spelled by the tokens taken, and nothing that follows them
could have been read as more of it. -/
theorem spelled_of_expression {ts rest : List Token} {e : Expr} (h : expression ts = .ok e rest) :
    ∃ ys, ts = ys ++ rest ∧ e.Spelled 0 0 ys rest :=
  spelled_of_expressionAt h

/-! ## Spelled expressions are read back

An operand and the operators after it are read in two steps, and the operators are folded to the
left as they come. So the tokens of a left operand have to be followed through the second step
too: `FeedsInto` says that reading at a level gets to the operators with the operand in hand. -/

/-- The tokens `ts` are read at a level as `e`, whatever follows that `e` ends before. -/
def ReadsBack (l : Level) (e : Expr) (ts : List Token) : Prop :=
  -- Going down a level takes a step and adds one to the rank, so the bound is the same at every
  -- level; ten steps a token lead from one token to the loosest level before the next.
  ∀ (d : Nat) (rest : List Token), e.EndsBefore l.rank rest →
    10 * (ts ++ rest).length + 10 ≤ d + l.rank → expressionAt d l (ts ++ rest) = .ok e rest

/-- Reading at a level the tokens `ts` comes to what reading operators after `e` comes to. -/
def FeedsInto (l : Level) (e : Expr) (ts : List Token) : Prop :=
  ∀ (rest : List Token) (result : Parsed Expr), e.EndsBefore (l.rank + 1) rest →
    (∀ d, 10 * rest.length + 1 ≤ d → operations d l e rest = result) →
    ∀ d, 10 * (ts ++ rest).length + 10 ≤ d + l.rank → expressionAt d l (ts ++ rest) = result

theorem operations_of_endsBefore {d : Nat} {l : Level} {e : Expr} {rest : List Token}
    (h : e.EndsBefore l.rank rest) : operations (d + 1) l e rest = .ok e rest := by
  have hno : accept l.hasOperator rest = .ok none rest := by
    rw [accept_eq_none]
    refine ⟨rfl, fun t ht => Bool.eq_false_iff.mpr fun hop => ?_⟩
    have := (h t ht).1 _ (Level.hasOperator_iff.mp hop)
    omega
  rw [operations, bind_of_ok hno]
  rfl

theorem FeedsInto.readsBack {l : Level} {e : Expr} {ts : List Token} (h : FeedsInto l e ts) :
    ReadsBack l e ts := by
  intro d rest hends hd
  refine h rest _ ?_ ?_ d hd
  · intro t ht
    obtain ⟨hlt, hparen⟩ := hends t ht
    exact ⟨fun m hm => Nat.lt_succ_of_lt (hlt m hm), hparen⟩
  · intro d' hd'
    obtain ⟨d'', rfl⟩ : ∃ d'', d' = d'' + 1 := ⟨d' - 1, by omega⟩
    exact operations_of_endsBefore hends

theorem rank_lt_of_ne_unary {l : Level} (h : l ≠ .unary) : l.rank < 6 := by
  cases l <;> first | decide | exact absurd rfl h

theorem ReadsBack.feedsInto {l : Level} {e : Expr} {ts : List Token} (hl : l ≠ .unary)
    (h : ReadsBack l.tighter e ts) : FeedsInto l e ts := by
  intro rest result hends hops d hd
  have hrank := rank_lt_of_ne_unary hl
  obtain ⟨d, rfl⟩ : ∃ d', d = d' + 1 := ⟨d - 1, by omega⟩
  simp only [List.length_append] at hd
  have hread : expressionAt d l.tighter (ts ++ rest) = .ok e rest := by
    apply h
    · rw [Level.rank_tighter hl]
      exact hends
    · rw [Level.rank_tighter hl, List.length_append]
      omega
  rw [expressionAt_binary hl, bind_of_ok hread]
  exact hops d (by omega)

/-- What is read at a level is read at every looser one. -/
theorem ReadsBack.looser {l l' : Level} {e : Expr} {ts : List Token} (h : ReadsBack l e ts)
    (hl : l'.rank ≤ l.rank) : ReadsBack l' e ts := by
  obtain ⟨n, hn⟩ : ∃ n, l.rank = l'.rank + n := ⟨l.rank - l'.rank, by omega⟩
  induction n generalizing l' with
  | zero =>
    have : l = l' := Level.rank_injective hn
    exact this ▸ h
  | succ n ih =>
    have hne : l' ≠ .unary := by
      rintro rfl
      cases l <;> simp only [Level.rank] at hn <;> omega
    have hrank := Level.rank_tighter hne
    exact (ReadsBack.feedsInto hne (ih (by omega) (by omega))).readsBack

theorem ReadsBack.feedsInto_of_lt {l l' : Level} {e : Expr} {ts : List Token}
    (h : ReadsBack l e ts) (hl : l'.rank < l.rank) : FeedsInto l' e ts := by
  have hne : l' ≠ .unary := by
    rintro rfl
    cases l <;> simp only [Level.rank] at hl <;> omega
  have hrank := Level.rank_tighter hne
  exact ReadsBack.feedsInto hne (h.looser (by omega))

theorem FeedsInto.binary {l : Level} {left right : Expr} {operator : Token} {ts us : List Token}
    (hl : l ≠ .unary) (hop : l.hasOperator operator.kind = true) (hleft : FeedsInto l left ts)
    (hright : ReadsBack l.tighter right us) :
    FeedsInto l (.binary left operator right) (ts ++ operator :: us) := by
  intro rest result hends hops d hd
  have hp := Level.hasOperator_iff.mp hop
  rw [List.append_assoc] at hd ⊢
  refine hleft (operator :: us ++ rest) result ?_ ?_ d hd
  · intro t ht
    obtain rfl : operator = t := by simpa using ht
    refine ⟨fun m hm => ?_, fun hparen => ?_⟩
    · have : l.rank = m := Option.some.inj (hp.symm.trans hm)
      omega
    · rw [hparen] at hp
      cases hp
  · intro d' hd'
    obtain ⟨d', rfl⟩ : ∃ d'', d' = d'' + 1 := ⟨d' - 1, by omega⟩
    simp only [List.cons_append, List.length_cons, List.length_append] at hd'
    have hacc : accept l.hasOperator (operator :: us ++ rest) = .ok (some operator) (us ++ rest) :=
      accept_eq_some.mpr ⟨rfl, hop⟩
    have hread : expressionAt d' l.tighter (us ++ rest) = .ok right rest := by
      apply hright
      · rw [Level.rank_tighter hl]
        exact hends
      · rw [Level.rank_tighter hl, List.length_append]
        omega
    rw [operations, bind_of_ok hacc]
    show (expressionAt d' l.tighter >>= _) _ = _
    rw [bind_of_ok hread]
    exact hops d' (by omega)

/-- The tokens `ts` are read as `e` at every level that `e` is tight enough for. -/
structure Readable (e : Expr) (ts : List Token) : Prop where
  feedsInto : ∀ l : Level, l ≠ .unary → l.rank ≤ e.tightness → FeedsInto l e ts
  readsBack : 6 ≤ e.tightness → ReadsBack .unary e ts

theorem Readable.at {l : Level} {e : Expr} {ts : List Token} (h : Readable e ts)
    (hl : l.rank ≤ e.tightness) : ReadsBack l e ts := by
  by_cases hu : l = .unary
  · subst hu
    exact h.readsBack hl
  · exact (h.feedsInto l hu hl).readsBack

theorem ReadsBack.readable {e : Expr} {ts : List Token} (h : ReadsBack .unary e ts) :
    Readable e ts where
  feedsInto _ hl _ := h.feedsInto_of_lt (rank_lt_of_ne_unary hl)
  readsBack _ := h

theorem readable_binary {left right : Expr} {operator : Token} {ts us : List Token}
    (hwf : (Expr.binary left operator right).wellFormed = true) (hleft : Readable left ts)
    (hright : Readable right us) :
    Readable (.binary left operator right) (ts ++ operator :: us) := by
  cases hp : operator.kind.precedence? with
  | none => simp [Expr.wellFormed, hp] at hwf
  | some n =>
    simp only [Expr.wellFormed, hp, Bool.and_eq_true, decide_eq_true_eq] at hwf
    obtain ⟨⟨⟨htl, htr⟩, _⟩, _⟩ := hwf
    have htight : (Expr.binary left operator right).tightness = n := by
      simp [Expr.tightness, hp]
    have hn := TokenKind.precedence?_lt hp
    obtain ⟨l, hl, rfl⟩ := Level.exists_rank hn
    have hrank := Level.rank_tighter hl
    have hfeeds : FeedsInto l (.binary left operator right) (ts ++ operator :: us) :=
      .binary hl (Level.hasOperator_iff.mpr hp) (hleft.feedsInto l hl htl)
        (hright.at (by omega))
    refine ⟨fun l' hl' hle => ?_, fun hle => by omega⟩
    rw [htight] at hle
    rcases Nat.lt_or_eq_of_le hle with hlt | heq
    · exact hfeeds.readsBack.feedsInto_of_lt hlt
    · exact Level.rank_injective heq ▸ hfeeds

theorem endsBefore_of_kind {n : Nat} {e : Expr} {t : Token} {rest : List Token}
    (hp : t.kind.precedence? = none) (hl : t.kind ≠ .leftParen) : e.EndsBefore n (t :: rest) := by
  intro u hu
  obtain rfl : t = u := by simpa using hu
  refine ⟨fun m hm => ?_, fun h => absurd h hl⟩
  rw [hp] at hm
  cases hm

theorem expressionAt_of_not_sign {d : Nat} {t : Token} {ts : List Token} (h : ¬ t.kind.isSign) :
    expressionAt (d + 1) .unary (t :: ts) = call d (t :: ts) := by
  have hacc : accept isUnaryOperator (t :: ts) = .ok none (t :: ts) := by
    rw [accept_eq_none]
    refine ⟨rfl, fun u hu => ?_⟩
    obtain rfl : t = u := by simpa using hu
    exact Bool.eq_false_iff.mpr fun hs => h (isUnaryOperator_iff.mp hs)
  rw [expressionAt_unary, bind_of_ok hacc]

theorem call_of_primary {d : Nat} {e : Expr} {ts rest : List Token}
    (h : primary d ts = .ok e rest) (hno : ∀ t ∈ rest.head?, t.kind ≠ .leftParen) :
    call (d + 1) ts = .ok e rest := by
  rw [call, bind_of_ok h]
  show (accept (· == .leftParen) >>= _) rest = _
  rw [bind_of_ok (accept_of_ne hno)]
  rfl

/-- A primary expression that starts with no sign is read as what it is. -/
theorem readable_of_primary {e : Expr} {t : Token} {ts : List Token} (hs : ¬ t.kind.isSign)
    (he : e.endsInCall = false)
    (h : ∀ d rest, 10 * (t :: ts ++ rest).length + 2 ≤ d →
      primary d (t :: ts ++ rest) = .ok e rest) :
    Readable e (t :: ts) := by
  refine ReadsBack.readable fun d rest hends hd => ?_
  simp only [Level.rank] at hd
  obtain ⟨d, rfl⟩ : ∃ d', d = d' + 2 := ⟨d - 2, by omega⟩
  rw [List.cons_append, expressionAt_of_not_sign hs]
  refine call_of_primary (h d rest (by omega)) fun u hu hparen => ?_
  have := (hends u hu).2 hparen
  rw [he] at this
  cases this

/-- An expression of one token is read as what that token stands for. -/
theorem readable_of_word {e : Expr} {t : Token} (hs : ¬ t.kind.isSign)
    (he : e.endsInCall = false) (h : ∀ d rest, primary (d + 1) (t :: rest) = .ok e rest) :
    Readable e [t] := by
  refine readable_of_primary hs he fun d rest hd => ?_
  obtain ⟨d, rfl⟩ : ∃ d', d = d' + 1 := ⟨d - 1, by omega⟩
  exact h d rest

theorem primary_of_isName {d : Nat} {t : Token} {rest : List Token} (h : t.kind.isName = true) :
    primary (d + 1) (t :: rest) = .ok (.variable t) rest := by
  cases hk : t.kind <;> simp [primary, hk] <;> rw [hk] at h <;> cases h

/-- One argument or more, up to the closing parenthesis. -/
def argumentList (d : Nat) : Parser (List Expr) := do
  let first ← expressionAt d .disjunction
  return first :: (← moreArguments d)

theorem argumentList_last {d : Nat} {e : Expr} {ts rest : List Token} {closing : Token}
    (he : ReadsBack .disjunction e ts) (hk : closing.kind = .rightParen)
    (hd : 10 * (ts ++ closing :: rest).length + 10 ≤ d) :
    argumentList d (ts ++ closing :: rest) = .ok [e] rest := by
  have hread : expressionAt d .disjunction (ts ++ closing :: rest) = .ok e (closing :: rest) :=
    he d _ (endsBefore_of_kind (by rw [hk]; rfl) (by rw [hk]; decide)) hd
  obtain ⟨d, rfl⟩ : ∃ d', d = d' + 1 := ⟨d - 1, by omega⟩
  have hacc : accept (· == .comma) (closing :: rest) = .ok none (closing :: rest) :=
    accept_of_ne (by simp [hk])
  have hmore : moreArguments (d + 1) (closing :: rest) = .ok [] rest := by
    rw [moreArguments, bind_of_ok hacc]
    show (expect .rightParen .argumentsClosing >>= _) _ = _
    rw [bind_of_ok (expect_cons hk)]
    rfl
  rw [argumentList, bind_of_ok hread, bind_of_ok hmore]
  rfl

theorem argumentList_more {d : Nat} {e : Expr} {es : List Expr} {ts us rest : List Token}
    {comma : Token} (he : ReadsBack .disjunction e ts) (hk : comma.kind = .comma)
    (hes : argumentList d us = .ok es rest)
    (hd : 10 * (ts ++ comma :: us).length + 10 ≤ d + 1) :
    argumentList (d + 1) (ts ++ comma :: us) = .ok (e :: es) rest := by
  have hread : expressionAt (d + 1) .disjunction (ts ++ comma :: us) = .ok e (comma :: us) :=
    he _ _ (endsBefore_of_kind (by rw [hk]; rfl) (by rw [hk]; decide)) hd
  have hmore : moreArguments (d + 1) (comma :: us) = .ok es rest := by
    rw [moreArguments, bind_of_ok (accept_cons hk)]
    exact hes
  rw [argumentList, bind_of_ok hread, bind_of_ok hmore]
  rfl

/-- A call is read as what it is, if its arguments are. -/
theorem readable_call {callee opening closing : Token} {es : List Expr} {ts : List Token}
    (hn : callee.kind.isName = true) (ho : opening.kind = .leftParen)
    (h : ∀ d rest, 10 * (ts ++ closing :: rest).length + 11 ≤ d →
      arguments d (ts ++ closing :: rest) = .ok es rest) :
    Readable (.call callee es) (callee :: opening :: ts ++ [closing]) := by
  refine ReadsBack.readable fun d rest _ hd => ?_
  simp only [Level.rank, List.cons_append, List.append_assoc, List.length_cons,
    List.nil_append] at hd ⊢
  obtain ⟨d, rfl⟩ : ∃ d', d = d' + 3 := ⟨d - 3, by omega⟩
  have hsign : ¬ callee.kind.isSign := TokenKind.not_isSign_of_isName hn
  have hprim : primary (d + 1) (callee :: opening :: (ts ++ closing :: rest)) =
      .ok (.variable callee) (opening :: (ts ++ closing :: rest)) :=
    primary_of_isName hn
  rw [expressionAt_of_not_sign hsign, call, bind_of_ok hprim]
  show (accept (· == .leftParen) >>= _) _ = _
  rw [bind_of_ok (accept_cons ho)]
  show (arguments (d + 1) >>= _) _ = _
  rw [bind_of_ok (h (d + 1) rest (by omega))]
  rfl

theorem readable_unary {operator : Token} {operand : Expr} {ts : List Token}
    (ho : operator.kind.isSign) (h : ReadsBack .unary operand ts) :
    Readable (.unary operator operand) (operator :: ts) := by
  refine ReadsBack.readable fun d rest hends hd => ?_
  simp only [Level.rank, List.cons_append, List.length_cons] at hd ⊢
  obtain ⟨d, rfl⟩ : ∃ d', d = d' + 1 := ⟨d - 1, by omega⟩
  have hacc : accept isUnaryOperator (operator :: (ts ++ rest)) =
      .ok (some operator) (ts ++ rest) := accept_eq_some.mpr ⟨rfl, isUnaryOperator_iff.mpr ho⟩
  have hread : expressionAt d .unary (ts ++ rest) = .ok operand rest :=
    h d rest hends (by simp only [Level.rank]; omega)
  rw [expressionAt_unary, bind_of_ok hacc]
  show (expressionAt d .unary >>= _) _ = _
  rw [bind_of_ok hread]
  rfl

theorem readable_grouping {opening closing : Token} {inner : Expr} {ts : List Token}
    (ho : opening.kind = .leftParen) (hc : closing.kind = .rightParen) (h : Readable inner ts) :
    Readable (.grouping inner) (opening :: ts ++ [closing]) := by
  show Readable (.grouping inner) (opening :: (ts ++ [closing]))
  refine readable_of_primary (by simp [ho, TokenKind.isSign]) rfl fun d rest hd => ?_
  simp only [List.cons_append, List.append_assoc, List.nil_append, List.length_cons] at hd ⊢
  obtain ⟨d, rfl⟩ : ∃ d', d = d' + 2 := ⟨d - 2, by omega⟩
  have hread : expressionAt d .disjunction (ts ++ closing :: rest) =
      .ok inner (closing :: rest) := by
    apply h.at (Nat.zero_le _) d
    · exact endsBefore_of_kind (by rw [hc]; rfl) (by rw [hc]; decide)
    · simp only [Level.rank]
      omega
  have hgroup : group (d + 1) (ts ++ closing :: rest) = .ok (.grouping inner) rest := by
    rw [group, bind_of_ok hread, bind_of_ok (expect_cons hc)]
    rfl
  simpa [primary, ho] using hgroup

theorem arguments_of_opens {d : Nat} {ts us : List Token}
    (h : ∃ t vs, ts = t :: vs ∧ t.kind.opensExpression = true) :
    arguments (d + 1) (ts ++ us) = argumentList d (ts ++ us) := by
  obtain ⟨t, vs, rfl, ht⟩ := h
  have hacc : accept (· == .rightParen) (t :: vs ++ us) = .ok none (t :: vs ++ us) := by
    refine accept_of_ne fun u hu hk => ?_
    obtain rfl : t = u := by simpa using hu
    rw [hk] at ht
    cases ht
  rw [arguments, bind_of_ok hacc]
  rfl

mutual

theorem readable_of_yields {e : Expr} {ts : List Token} (h : e.Yields ts)
    (hwf : e.wellFormed = true) : Readable e ts := by
  cases h with
  | yes ht => exact readable_of_word (by simp [ht, TokenKind.isSign]) rfl (by simp [primary, ht])
  | no ht => exact readable_of_word (by simp [ht, TokenKind.isSign]) rfl (by simp [primary, ht])
  | nil ht => exact readable_of_word (by simp [ht, TokenKind.isSign]) rfl (by simp [primary, ht])
  | constant ht =>
    rcases ht with ht | ht
    · exact readable_of_word (by simp [ht, TokenKind.isSign]) rfl (by simp [primary, ht])
    · exact readable_of_word (by simp [ht, TokenKind.isSign]) rfl (by simp [primary, ht])
  | @reference name =>
    have hn : name.kind.isName = true := hwf
    exact readable_of_word (TokenKind.not_isSign_of_isName hn) rfl fun _ _ => primary_of_isName hn
  | grouping ho hi hc => exact readable_grouping ho hc (readable_of_yields hi hwf)
  | unary ho hr =>
    simp only [Expr.wellFormed, Bool.and_eq_true, decide_eq_true_eq] at hwf
    exact readable_unary ho ((readable_of_yields hr hwf.2).readsBack hwf.1)
  | binary hl hr =>
    have hparts := hwf
    simp only [Expr.wellFormed, Bool.and_eq_true] at hparts
    exact readable_binary hwf (readable_of_yields hl hparts.1.2) (readable_of_yields hr hparts.2)
  | @call callee opening closing es ts ho ha hc =>
    simp only [Expr.wellFormed, Bool.and_eq_true] at hwf
    refine readable_call hwf.1 ho fun d rest hd => ?_
    obtain ⟨d, rfl⟩ : ∃ d', d = d' + 1 := ⟨d - 1, by omega⟩
    cases es with
    | nil =>
      cases ha
      rw [List.nil_append, arguments, bind_of_ok (accept_cons hc)]
      rfl
    | cons e es =>
      rw [arguments_of_opens (ha.opens hwf.2)]
      exact argumentList_of_yields ha (List.cons_ne_nil _ _) hwf.2 hc (by omega)
termination_by sizeOf e

theorem argumentList_of_yields {es : List Expr} {ts : List Token} (h : ArgumentsYield es ts)
    (hne : es ≠ []) (hwf : argumentsWellFormed es = true) {d : Nat} {closing : Token}
    {rest : List Token} (hk : closing.kind = .rightParen)
    (hd : 10 * (ts ++ closing :: rest).length + 10 ≤ d) :
    argumentList d (ts ++ closing :: rest) = .ok es rest := by
  cases h with
  | none => exact absurd rfl hne
  | last he =>
    simp only [argumentsWellFormed, Bool.and_eq_true] at hwf
    exact argumentList_last ((readable_of_yields he hwf.1).at (Nat.zero_le _)) hk hd
  | more he hc hf =>
    rw [argumentsWellFormed, Bool.and_eq_true] at hwf
    obtain ⟨d, rfl⟩ : ∃ d', d = d' + 1 := ⟨d - 1, by omega⟩
    simp only [List.append_assoc, List.cons_append, List.length_append, List.length_cons] at hd ⊢
    refine argumentList_more ((readable_of_yields he hwf.1).at (Nat.zero_le _)) hc ?_ ?_
    · apply argumentList_of_yields hf (List.cons_ne_nil _ _) hwf.2 hk
      simp only [List.length_append, List.length_cons]
      omega
    · simp only [List.length_append, List.length_cons]
      omega
termination_by sizeOf es

end

/-- The tokens that spell a well-formed expression are read back as it, whatever follows them, if
that cannot be read as more of it. -/
theorem expression_of_yields {e : Expr} {ts rest : List Token} (h : e.Yields ts)
    (hwf : e.wellFormed = true) (hends : e.EndsBefore 0 rest) :
    expression (ts ++ rest) = .ok e rest :=
  (readable_of_yields h hwf).at (Nat.zero_le _) _ _ hends (Nat.le_refl _)

end Parser
end RiftScript
