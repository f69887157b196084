/-
Reading two lists of tokens side by side.

A parser knows a token by what it says, and looks at one token at a time. So on two lists that
correspond token by token it does the same, as long as they correspond: it reads the same tree,
except for places, or fails with the same fault at the same token. The lists need not correspond to
their ends. Once the parser has gone past the place up to which they do, only that is known. How
deep the two parsers may go does not matter either, unless one of them goes too deep.
-/
import RiftScript.Proofs.Parsing.Failures
import RiftScript.Proofs.Relocation

namespace RiftScript

/-- The tokens left over, whether reading succeeded or failed. -/
def Parsed.rest {α : Type} : Parsed α → List Token
  | .ok _ rest => rest
  | .error _ _ rest => rest

/-- A correspondence between lists of tokens, in which tokens are moved by `f`. -/
structure Correspondence (f : Relocation) where
  inputs : List Token → List Token → Prop
  /-- So few tokens of the first list are left that it no longer corresponds to the second. -/
  lost : List Token → Prop
  nil : ∀ {us}, inputs [] us → us = []
  cons : ∀ {t ts us}, inputs (t :: ts) us →
    ∃ us', us = f.token t :: us' ∧ (inputs ts us' ∨ lost ts)
  lost_of_le : ∀ {ts us}, lost ts → us.length ≤ ts.length → lost us

namespace Correspondence

variable {f : Relocation} {α β : Type}

/-- Two parsers did the same, or the first went past the place up to which the lists correspond, or
one of them went too deep. -/
inductive Relates (c : Correspondence f) (g : α → β) : Parsed α → Parsed β → Prop where
  | ok (a : α) {rest rest' : List Token} (h : c.inputs rest rest') :
      Relates c g (.ok a rest) (.ok (g a) rest')
  | error (fault : SyntaxFault) {blamed blamed' rest rest' : List Token}
      (hblamed : c.inputs blamed blamed') (h : c.inputs rest rest') :
      Relates c g (.error fault blamed rest) (.error fault blamed' rest')
  | lost {first : Parsed α} {second : Parsed β} (h : c.lost first.rest) : Relates c g first second
  | tooDeep {blamed rest : List Token} {second : Parsed β} :
      Relates c g (.error .tooDeep blamed rest) second
  | tooDeep' {first : Parsed α} {blamed rest : List Token} :
      Relates c g first (.error .tooDeep blamed rest)

end Correspondence

namespace Parser

variable {α β γ δ : Type}

/-! ## Steps -/

/-- No tokens are put back. -/
def Shrinks (p : Parser α) : Prop :=
  ∀ ts, (p ts).rest.length ≤ ts.length

theorem shrinks_pure {a : α} : Shrinks (Pure.pure a : Parser α) :=
  fun _ => Nat.le_refl _

theorem Shrinks.bind {p : Parser α} {k : α → Parser β} (hp : Shrinks p)
    (hk : ∀ a, Shrinks (k a)) : Shrinks (p >>= k) := by
  intro ts
  have hp := hp ts
  cases h : p ts with
  | ok a mid =>
    rw [h] at hp
    rw [bind_of_ok h]
    exact Nat.le_trans (hk a mid) hp
  | error fault blamed rest =>
    have herror : (p >>= k) ts = .error fault blamed rest := bind_eq_error.mpr (.inl h)
    rw [h] at hp
    rw [herror]
    exact hp

/-- On lists that correspond the two parsers do the same. -/
structure Corresponds {f : Relocation} (c : Correspondence f) (g : α → β) (p : Parser α)
    (q : Parser β) : Prop where
  shrinks : Shrinks p
  relates : ∀ ts us, c.inputs ts us → c.Relates g (p ts) (q us)

variable {f : Relocation} {c : Correspondence f} {g : α → β} {g' : γ → δ}

theorem corresponds_pure {a : α} {b : β} (h : g a = b) :
    Corresponds c g (Pure.pure a) (Pure.pure b) :=
  ⟨shrinks_pure, fun _ _ hinputs => h ▸ .ok a hinputs⟩

theorem corresponds_fail (fault : SyntaxFault) : Corresponds c g (fail fault) (fail fault) :=
  ⟨fun _ => Nat.le_refl _, fun _ _ h => .error fault h h⟩

theorem corresponds_tooDeep {q : Parser β} : Corresponds c g (fail .tooDeep) q :=
  ⟨fun _ => Nat.le_refl _, fun _ _ _ => .tooDeep⟩

/-- A second parser that may go no step deep fails at once, so it need not be looked at. -/
theorem corresponds_of_succ {p : Parser α} {q : Nat → Parser β} (hq : q 0 = fail .tooDeep)
    (h : ∀ d, Corresponds c g p (q (d + 1))) : ∀ d, Corresponds c g p (q d)
  | 0 => ⟨(h 0).shrinks, fun _ _ _ => hq ▸ .tooDeep'⟩
  | d + 1 => h d

theorem Corresponds.bind {p : Parser α} {q : Parser β} {k : α → Parser γ} {k' : β → Parser δ}
    (h : Corresponds c g p q) (hk : ∀ a, Corresponds c g' (k a) (k' (g a))) :
    Corresponds c g' (p >>= k) (q >>= k') := by
  have hshrinks : Shrinks (p >>= k) := h.shrinks.bind fun a => (hk a).shrinks
  refine ⟨hshrinks, fun ts us hinputs => ?_⟩
  have hpq := h.relates ts us hinputs
  generalize hp : p ts = first, hq : q us = second at hpq
  cases hpq with
  | ok a hrest =>
    rw [bind_of_ok hp, bind_of_ok hq]
    exact (hk a).relates _ _ hrest
  | error fault hblamed hrest =>
    rw [bind_eq_error.mpr (.inl hp), bind_eq_error.mpr (.inl hq)]
    exact .error fault hblamed hrest
  | lost hlost =>
    -- Nothing is known of the second parser here, but the first one puts no tokens back.
    refine .lost (c.lost_of_le hlost ?_)
    cases first with
    | ok a mid =>
      rw [bind_of_ok hp]
      exact (hk a).shrinks mid
    | error fault blamed rest =>
      rw [bind_eq_error.mpr (.inl hp)]
      exact Nat.le_refl _
  | tooDeep =>
    rw [bind_eq_error.mpr (.inl hp)]
    exact .tooDeep
  | tooDeep' =>
    rw [bind_eq_error.mpr (.inl hq)]
    exact .tooDeep'

/-- A token was taken from both lists. -/
theorem relates_taken {a : α} {b : β} {ts us : List Token} (hab : g a = b)
    (h : c.inputs ts us ∨ c.lost ts) : c.Relates g (.ok a ts) (.ok b us) := by
  subst hab
  rcases h with h | h
  · exact .ok a h
  · exact .lost h

theorem shrinks_accept {test : TokenKind → Bool} : Shrinks (accept test) := by
  intro ts
  cases ts with
  | nil => exact Nat.le_refl _
  | cons t ts =>
    rw [accept]
    split
    · exact Nat.le_succ _
    · exact Nat.le_refl _

theorem corresponds_accept {test : TokenKind → Bool} :
    Corresponds c (Option.map f.token) (accept test) (accept test) := by
  refine ⟨shrinks_accept, fun ts us hinputs => ?_⟩
  cases ts with
  | nil =>
    rw [c.nil hinputs]
    exact .ok none (c.nil hinputs ▸ hinputs)
  | cons t ts =>
    obtain ⟨us, rfl, hrest⟩ := c.cons hinputs
    rw [accept, accept, f.kind_token]
    split
    · exact relates_taken rfl hrest
    · exact .ok none hinputs

theorem corresponds_expectThat {test : TokenKind → Bool} {what : Expected} :
    Corresponds c f.token (expectThat test what) (expectThat test what) := by
  refine ⟨fun ts => ?_, fun ts us hinputs => ?_⟩
  · cases ts with
    | nil => exact Nat.le_refl _
    | cons t ts =>
      rw [expectThat]
      split
      · exact Nat.le_succ _
      · exact Nat.le_refl _
  · cases ts with
    | nil =>
      rw [c.nil hinputs]
      exact .error _ (c.nil hinputs ▸ hinputs) (c.nil hinputs ▸ hinputs)
    | cons t ts =>
      obtain ⟨us, rfl, hrest⟩ := c.cons hinputs
      rw [expectThat, expectThat, f.kind_token]
      split
      · exact relates_taken rfl hrest
      · exact .error _ hinputs hinputs

theorem corresponds_expect {kind : TokenKind} {what : Expected} :
    Corresponds c f.token (expect kind what) (expect kind what) :=
  corresponds_expectThat

theorem corresponds_peek : Corresponds c id peek peek := by
  refine ⟨fun _ => Nat.le_refl _, fun ts us hinputs => ?_⟩
  cases ts with
  | nil =>
    rw [c.nil hinputs]
    exact .ok none (c.nil hinputs ▸ hinputs)
  | cons t ts =>
    obtain ⟨us, rfl, hrest⟩ := c.cons hinputs
    rw [peek, peek, List.head?_cons, List.head?_cons, Option.map_some, Option.map_some,
      f.kind_token]
    exact .ok (some t.kind) hinputs

/-! ## Expressions -/

theorem shrinks_callOf {callee : Expr} {paren : List Token} {arguments : List Expr} :
    Shrinks (callOf callee paren arguments) := by
  intro ts
  cases callee <;> exact Nat.le_refl _

theorem corresponds_callOf {callee : Expr} {paren paren' : List Token} {arguments : List Expr}
    (h : c.inputs paren paren') :
    Corresponds c (Expr.relocate f) (callOf callee paren arguments)
      (callOf (callee.relocate f) paren' (relocateAll f arguments)) := by
  refine ⟨shrinks_callOf, fun ts us hinputs => ?_⟩
  cases callee <;> first | exact .ok _ hinputs | exact .error .notCallable h hinputs

mutual

theorem corresponds_expressionAt : ∀ (d d' : Nat) (l : Level),
    Corresponds c (Expr.relocate f) (expressionAt d l) (expressionAt d' l)
  | 0, _, _ => corresponds_tooDeep
  | d + 1, d', l => by
    refine corresponds_of_succ (q := (expressionAt · l)) rfl (fun d' => ?_) d'
    by_cases hl : l = .unary
    · subst hl
      rw [expressionAt_unary, expressionAt_unary]
      refine corresponds_accept.bind fun operator => ?_
      cases operator with
      | some operator =>
        exact (corresponds_expressionAt d d' .unary).bind fun _ => corresponds_pure rfl
      | none => exact corresponds_call d d'
    · rw [expressionAt_binary hl, expressionAt_binary hl]
      exact (corresponds_expressionAt d d' l.tighter).bind (corresponds_operations d d' l)

theorem corresponds_operations : ∀ (d d' : Nat) (l : Level) (left : Expr),
    Corresponds c (Expr.relocate f) (operations d l left) (operations d' l (left.relocate f))
  | 0, _, _, _ => corresponds_tooDeep
  | d + 1, d', l, left => by
    refine corresponds_of_succ (q := (operations · l (left.relocate f))) rfl (fun d' => ?_) d'
    rw [operations, operations]
    refine corresponds_accept.bind fun operator => ?_
    cases operator with
    | some operator =>
      refine (corresponds_expressionAt d d' l.tighter).bind fun right => ?_
      exact corresponds_operations d d' l (.binary left operator right)
    | none => exact corresponds_pure rfl

theorem corresponds_call : ∀ d d' : Nat, Corresponds c (Expr.relocate f) (call d) (call d')
  | 0, _ => corresponds_tooDeep
  | d + 1, d' => by
    refine corresponds_of_succ rfl (fun d' => ?_) d'
    rw [call, call]
    refine (corresponds_primary d d').bind fun callee => ⟨fun ts => ?_, fun ts us hinputs => ?_⟩
    · -- The tokens ahead are kept for blame only.
      have hshrinks : Shrinks (accept (· == .leftParen) >>= fun o => match o with
          | some _ => arguments d >>= callOf callee ts
          | none => Pure.pure callee) := by
        refine shrinks_accept.bind fun o => ?_
        cases o with
        | some _ => exact (corresponds_arguments d d').shrinks.bind fun _ => shrinks_callOf
        | none => exact shrinks_pure
      exact hshrinks ts
    · rw [bind_of_ok (ahead_eq_ok.mpr ⟨rfl, rfl⟩), bind_of_ok (ahead_eq_ok.mpr ⟨rfl, rfl⟩)]
      refine Corresponds.relates (corresponds_accept.bind fun o => ?_) ts us hinputs
      cases o with
      | some _ =>
        exact (corresponds_arguments d d').bind fun _ => corresponds_callOf hinputs
      | none => exact corresponds_pure rfl

theorem corresponds_primary : ∀ d d' : Nat,
    Corresponds c (Expr.relocate f) (primary d) (primary d')
  | 0, _ => corresponds_tooDeep
  | d + 1, d' => by
    refine corresponds_of_succ rfl (fun d' => ⟨fun ts => ?_, fun ts us hinputs => ?_⟩) d'
    · cases ts with
      | nil => exact Nat.le_refl _
      | cons t ts =>
        have hgroup := (corresponds_group d d').shrinks ts
        simp only [primary]
        split <;>
          first
          | exact Nat.le_refl _
          | exact Nat.le_succ _
          | exact Nat.le_succ_of_le hgroup
    · cases ts with
      | nil =>
        rw [c.nil hinputs]
        exact .error _ (c.nil hinputs ▸ hinputs) (c.nil hinputs ▸ hinputs)
      | cons t ts =>
        obtain ⟨us, rfl, hrest⟩ := c.cons hinputs
        simp only [primary, f.kind_token]
        cases hk : t.kind with
        | leftParen =>
          rcases hrest with hrest | hrest
          · exact (corresponds_group d d').relates ts us hrest
          · exact .lost (c.lost_of_le hrest ((corresponds_group d d').shrinks ts))
        | trueWord | falseWord | nilWord =>
          refine relates_taken ?_ hrest
          rw [Expr.relocate, f.line_token]
        | number | string =>
          refine relates_taken ?_ hrest
          rw [Expr.relocate, f.line_token, f.literal_token]
        | identifier | action a | query q | place p => exact relates_taken rfl hrest
        | _ => exact .error _ hinputs hinputs

theorem corresponds_group : ∀ d d' : Nat, Corresponds c (Expr.relocate f) (group d) (group d')
  | 0, _ => corresponds_tooDeep
  | d + 1, d' => by
    refine corresponds_of_succ rfl (fun d' => ?_) d'
    rw [group, group]
    refine (corresponds_expressionAt d d' .disjunction).bind fun inner => ?_
    exact corresponds_expect.bind fun _ => corresponds_pure rfl

theorem corresponds_arguments : ∀ d d' : Nat,
    Corresponds c (relocateAll f) (arguments d) (arguments d')
  | 0, _ => corresponds_tooDeep
  | d + 1, d' => by
    refine corresponds_of_succ rfl (fun d' => ?_) d'
    rw [arguments, arguments]
    refine corresponds_accept.bind fun o => ?_
    cases o with
    | some _ => exact corresponds_pure rfl
    | none =>
      refine (corresponds_expressionAt d d' .disjunction).bind fun first => ?_
      exact (corresponds_moreArguments d d').bind fun _ => corresponds_pure rfl

theorem corresponds_moreArguments : ∀ d d' : Nat,
    Corresponds c (relocateAll f) (moreArguments d) (moreArguments d')
  | 0, _ => corresponds_tooDeep
  | d + 1, d' => by
    refine corresponds_of_succ rfl (fun d' => ?_) d'
    rw [moreArguments, moreArguments]
    refine corresponds_accept.bind fun o => ?_
    cases o with
    | some _ =>
      refine (corresponds_expressionAt d d' .disjunction).bind fun next => ?_
      exact (corresponds_moreArguments d d').bind fun _ => corresponds_pure rfl
    | none => exact corresponds_expect.bind fun _ => corresponds_pure rfl

end

theorem corresponds_expression : Corresponds c (Expr.relocate f) expression expression :=
  ⟨fun ts => (corresponds_expressionAt (c := c) (depth ts) 0 .disjunction).shrinks ts,
    fun ts us => (corresponds_expressionAt (depth ts) (depth us) .disjunction).relates ts us⟩

/-! ## Statements -/

theorem corresponds_moreParameters : ∀ d d' : Nat,
    Corresponds c (List.map f.token) (moreParameters d) (moreParameters d')
  | 0, _ => corresponds_tooDeep
  | d + 1, d' => by
    refine corresponds_of_succ rfl (fun d' => ?_) d'
    rw [moreParameters, moreParameters]
    refine corresponds_accept.bind fun o => ?_
    cases o with
    | some _ =>
      refine corresponds_expectThat.bind fun next => ?_
      exact (corresponds_moreParameters d d').bind fun _ => corresponds_pure rfl
    | none => exact corresponds_expect.bind fun _ => corresponds_pure rfl

theorem corresponds_parameters (d d' : Nat) :
    Corresponds c (List.map f.token) (parameters d) (parameters d') := by
  rw [parameters, parameters]
  refine corresponds_accept.bind fun opening => ?_
  cases opening with
  | none => exact corresponds_pure rfl
  | some _ =>
    refine corresponds_accept.bind fun closing => ?_
    cases closing with
    | some _ => exact corresponds_pure rfl
    | none =>
      refine corresponds_expectThat.bind fun first => ?_
      exact (corresponds_moreParameters d d').bind fun _ => corresponds_pure rfl

theorem corresponds_condition {opening : Expected} :
    Corresponds c (Expr.relocate f) (condition opening) (condition opening) := by
  rw [condition]
  refine corresponds_expect.bind fun _ => corresponds_expression.bind fun test => ?_
  exact corresponds_expect.bind fun _ => corresponds_expect.bind fun _ => corresponds_pure rfl

theorem corresponds_expressionStatement :
    Corresponds c (Stmt.relocate f) expressionStatement expressionStatement := by
  rw [expressionStatement]
  refine corresponds_expression.bind fun value => ?_
  exact corresponds_accept.bind fun _ => corresponds_pure rfl

mutual

theorem corresponds_statementAt : ∀ d d' : Nat,
    Corresponds c (Stmt.relocate f) (statementAt d) (statementAt d')
  | 0, _ => corresponds_tooDeep
  | d + 1, d' => by
    refine corresponds_of_succ rfl (fun d' => ?_) d'
    have hbody : ∀ closing, Corresponds c (relocateBody f) (bodyAt d closing) (bodyAt d' closing) :=
      corresponds_bodyAt d d'
    rw [statementAt, statementAt]
    refine corresponds_peek.bind fun next => ?_
    cases next with
    | none => exact corresponds_expressionStatement
    | some k =>
      cases k with
      | champion => exact (corresponds_championAt d d').bind fun _ => corresponds_pure rfl
      | ifWord =>
        refine corresponds_accept.bind fun _ => corresponds_condition.bind fun test => ?_
        refine (hbody _).bind fun thenBody => ?_
        exact (corresponds_elseAt d d').bind fun _ => corresponds_pure rfl
      | whileWord =>
        refine corresponds_accept.bind fun _ => corresponds_condition.bind fun test => ?_
        exact (hbody _).bind fun _ => corresponds_pure rfl
      | combo =>
        refine corresponds_accept.bind fun _ => corresponds_expect.bind fun _ => ?_
        exact (hbody _).bind fun _ => corresponds_pure rfl
      | leftBrace =>
        refine corresponds_accept.bind fun _ => ?_
        exact (hbody _).bind fun _ => corresponds_pure rfl
      | _ => exact corresponds_expressionStatement

theorem corresponds_bodyAt : ∀ (d d' : Nat) (closing : Expected),
    Corresponds c (relocateBody f) (bodyAt d closing) (bodyAt d' closing)
  | 0, _, _ => corresponds_tooDeep
  | d + 1, d', closing => by
    refine corresponds_of_succ (q := (bodyAt · closing)) rfl (fun d' => ?_) d'
    have hmore : Corresponds c (relocateBody f)
        (do return (← statementAt d) :: (← bodyAt d closing))
        (do return (← statementAt d') :: (← bodyAt d' closing)) := by
      refine (corresponds_statementAt d d').bind fun first => ?_
      exact (corresponds_bodyAt d d' closing).bind fun _ => corresponds_pure rfl
    rw [bodyAt, bodyAt]
    refine corresponds_peek.bind fun next => ?_
    cases next with
    | none => exact corresponds_fail _
    | some k =>
      cases k with
      | rightBrace => exact corresponds_accept.bind fun _ => corresponds_pure rfl
      | _ => exact hmore

theorem corresponds_elseAt : ∀ d d' : Nat,
    Corresponds c (relocateElse f) (elseAt d) (elseAt d')
  | 0, _ => corresponds_tooDeep
  | d + 1, d' => by
    refine corresponds_of_succ rfl (fun d' => ?_) d'
    rw [elseAt, elseAt]
    refine corresponds_accept.bind fun other => ?_
    cases other with
    | none => exact corresponds_pure rfl
    | some _ =>
      refine corresponds_expect.bind fun _ => ?_
      exact (corresponds_bodyAt d d' _).bind fun _ => corresponds_pure rfl

theorem corresponds_championAt : ∀ d d' : Nat,
    Corresponds c (Champion.relocate f) (championAt d) (championAt d')
  | 0, _ => corresponds_tooDeep
  | d + 1, d' => by
    refine corresponds_of_succ rfl (fun d' => ?_) d'
    rw [championAt, championAt]
    refine corresponds_expect.bind fun _ => corresponds_expect.bind fun name => ?_
    refine corresponds_expect.bind fun _ => ?_
    exact (corresponds_handlersAt d d').bind fun _ => corresponds_pure rfl

theorem corresponds_handlersAt : ∀ d d' : Nat,
    Corresponds c (relocateHandlers f) (handlersAt d) (handlersAt d')
  | 0, _ => corresponds_tooDeep
  | d + 1, d' => by
    refine corresponds_of_succ rfl (fun d' => ?_) d'
    have hmore : Corresponds c (relocateHandlers f)
        (do
          let event ← expectThat TokenKind.isEvent .eventName
          let params ← parameters d
          let _ ← expect .leftBrace .handlerOpening
          let body ← bodyAt d .handlerClosing
          return ⟨event, params, body⟩ :: (← handlersAt d))
        (do
          let event ← expectThat TokenKind.isEvent .eventName
          let params ← parameters d'
          let _ ← expect .leftBrace .handlerOpening
          let body ← bodyAt d' .handlerClosing
          return ⟨event, params, body⟩ :: (← handlersAt d')) := by
      refine corresponds_expectThat.bind fun event => ?_
      refine (corresponds_parameters d d').bind fun params => corresponds_expect.bind fun _ => ?_
      refine (corresponds_bodyAt d d' _).bind fun body => ?_
      exact (corresponds_handlersAt d d').bind fun _ => corresponds_pure rfl
    rw [handlersAt, handlersAt]
    refine corresponds_peek.bind fun next => ?_
    cases next with
    | none => exact corresponds_fail _
    | some k =>
      cases k with
      | rightBrace => exact corresponds_accept.bind fun _ => corresponds_pure rfl
      | _ => exact hmore

end

theorem corresponds_statement : Corresponds c (Stmt.relocate f) statement statement :=
  ⟨fun ts => (corresponds_statementAt (c := c) (depth ts) 0).shrinks ts,
    fun ts us => (corresponds_statementAt (depth ts) (depth us)).relates ts us⟩

theorem corresponds_champion : Corresponds c (Champion.relocate f) champion champion :=
  ⟨fun ts => (corresponds_championAt (c := c) (depth ts) 0).shrinks ts,
    fun ts us => (corresponds_championAt (depth ts) (depth us)).relates ts us⟩

/-! ## Whole scripts -/

theorem corresponds_statements : ∀ n n' : Nat,
    Corresponds c (relocateBody f) (statements n) (statements n')
  | 0, n' => by
    refine ⟨fun ts => ?_, fun ts us hinputs => ?_⟩
    · cases ts <;> exact Nat.le_refl _
    · cases ts with
      | nil =>
        rw [c.nil hinputs]
        cases n' <;> exact .ok [] (c.nil hinputs ▸ hinputs)
      | cons t ts => exact .tooDeep
  | n + 1, n' => by
    have hmore : ∀ n', Corresponds c (relocateBody f)
        (do return (← statement) :: (← statements n))
        (do return (← statement) :: (← statements n')) := fun n' =>
      corresponds_statement.bind fun first =>
        (corresponds_statements n n').bind fun _ => corresponds_pure rfl
    refine ⟨fun ts => ?_, fun ts us hinputs => ?_⟩
    · cases ts with
      | nil => exact Nat.le_refl _
      | cons t ts => exact (hmore 0).shrinks (t :: ts)
    · cases ts with
      | nil =>
        rw [c.nil hinputs]
        cases n' <;> exact .ok [] (c.nil hinputs ▸ hinputs)
      | cons t ts =>
        obtain ⟨us, rfl, hrest⟩ := c.cons hinputs
        cases n' with
        | zero => exact .tooDeep'
        | succ n' => exact (hmore n').relates (t :: ts) _ hinputs

theorem corresponds_program : Corresponds c (relocateBody f) program program :=
  ⟨fun ts => (corresponds_statements (c := c) ts.length 0).shrinks ts,
    fun ts us => (corresponds_statements ts.length us.length).relates ts us⟩

/-- What follows the one expression of a script: an optional semicolon and the end. -/
def ending (value : Expr) : Parser Expr := do
  let _ ← accept (· == .semicolon)
  match ← peek with
  | none => return value
  | some _ => fail (.expected .endOfExpression)

theorem corresponds_ending (value : Expr) :
    Corresponds c (Expr.relocate f) (ending value) (ending (value.relocate f)) := by
  rw [ending, ending]
  refine corresponds_accept.bind fun _ => corresponds_peek.bind fun next => ?_
  cases next with
  | none => exact corresponds_pure rfl
  | some _ => exact corresponds_fail _

theorem corresponds_single : Corresponds c (Expr.relocate f) single single := by
  rw [single]
  refine corresponds_peek.bind fun next => ?_
  cases next with
  | none => exact corresponds_expression.bind corresponds_ending
  | some k =>
    cases k with
    | champion =>
      exact corresponds_champion.bind fun declared => corresponds_ending (.champion declared)
    | _ => exact corresponds_expression.bind corresponds_ending

end Parser
end RiftScript
