/-
Syntax errors are found on what has been read.

Reading looks at the next token only and never goes back. So when it fails, the tokens that were
taken and the next one decide that it fails, and how. Whatever comes after them, in place of the
tokens that were there, cannot mend the error or change what is said about it.
-/
import RiftScript.Proofs.Parsing.Layout

namespace RiftScript

/-! ## Lists that agree up to a token -/

/-- After the same tokens the two lists go on with `last` and `last'`, of which only the first
tokens need to be the same. -/
def Correspondence.agreeing {last last' : List Token} (h : last'.head? = last.head?) :
    Correspondence .stay where
  inputs ts us := ∃ common, ts = common ++ last ∧ us = common ++ last'
  lost ts := ts.length < last.length
  nil := by
    intro us hinputs
    obtain ⟨common, hts, rfl⟩ := hinputs
    obtain ⟨rfl, rfl⟩ := List.append_eq_nil_iff.mp hts.symm
    exact List.head?_eq_none_iff.mp h
  cons := by
    intro t ts us hinputs
    obtain ⟨common, hts, rfl⟩ := hinputs
    cases common with
    | nil =>
      rw [List.nil_append] at hts
      rw [← hts, List.head?_cons] at h
      obtain ⟨us, rfl⟩ := List.head?_eq_some_iff.mp h
      refine ⟨us, rfl, .inr ?_⟩
      rw [← hts]
      exact Nat.lt_succ_self _
    | cons u common =>
      obtain ⟨rfl, rfl⟩ := List.cons.inj hts
      exact ⟨common ++ last', rfl, .inl ⟨common, rfl, rfl⟩⟩
  lost_of_le hlost hle := Nat.lt_of_le_of_lt hle hlost

namespace Parser

variable {α β : Type}

/-- Only the grammar makes the parser fail, and not the bound on its depth. -/
def FailsByGrammar (p : Parser α) : Prop :=
  ∀ {ts fault blamed rest}, p ts = .error fault blamed rest → fault.IsGrammatical

theorem FailsByGrammar.bind {p : Parser α} {k : α → Parser β} (hp : FailsByGrammar p)
    (hk : ∀ a, FailsByGrammar (k a)) : FailsByGrammar (p >>= k) := by
  intro ts fault blamed rest h
  rcases bind_eq_error.mp h with h | ⟨a, mid, _, h⟩
  · exact hp h
  · exact hk a h

theorem failsByGrammar_accept {test : TokenKind → Bool} : FailsByGrammar (accept test) := by
  intro ts fault blamed rest h
  cases ts with
  | nil => cases h
  | cons t ts =>
    rw [accept] at h
    split at h <;> cases h

theorem failsByGrammar_expect {kind : TokenKind} {what : Expected} :
    FailsByGrammar (expect kind what) := by
  intro ts fault blamed rest h
  cases ts with
  | nil =>
    cases h
    trivial
  | cons t ts =>
    rw [expect, expectThat] at h
    split at h <;> cases h
    trivial

theorem failsByGrammar_peek : FailsByGrammar peek := by
  intro ts fault blamed rest h
  cases h

theorem failsByGrammar_expression : FailsByGrammar expression := by
  intro ts fault blamed rest h
  have hreads : ReadsInline ts (expression ts) := readsInline_expression
  rw [h] at hreads
  exact hreads.1

theorem failsByGrammar_champion : FailsByGrammar champion := by
  intro ts fault blamed rest h
  obtain ⟨d, hd⟩ : ∃ d, depth ts = d + 1 := ⟨10 * ts.length + 9, by rw [depth]; omega⟩
  rw [champion, hd] at h
  have hsteps := h
  rw [championAt] at hsteps
  rcases bind_eq_error.mp hsteps with hword | ⟨t, us, hword, _⟩
  · exact failsByGrammar_expect hword
  · obtain ⟨rfl, hk⟩ := expect_eq_ok.mp hword
    rw [depth, List.length_cons] at hd
    have htakes : TakesStatement us (championAt (d + 1) (t :: us)) :=
      takesStatement_championAt hk (by omega)
    rw [h] at htakes
    exact htakes.1

theorem failsByGrammar_ending (value : Expr) : FailsByGrammar (ending value) := by
  rw [ending]
  refine failsByGrammar_accept.bind fun _ => failsByGrammar_peek.bind fun next => ?_
  intro ts fault blamed rest h
  cases next with
  | none => cases h
  | some k =>
    cases h
    trivial

theorem failsByGrammar_single : FailsByGrammar single := by
  rw [single]
  refine failsByGrammar_peek.bind fun next => ?_
  cases next with
  | none => exact failsByGrammar_expression.bind failsByGrammar_ending
  | some k =>
    cases k with
    | champion =>
      exact failsByGrammar_champion.bind fun declared => failsByGrammar_ending (.champion declared)
    | _ => exact failsByGrammar_expression.bind failsByGrammar_ending

theorem failsByGrammar_statements {n : Nat} {ts blamed rest : List Token} {fault : SyntaxFault}
    (hn : ts.length ≤ n) (h : statements n ts = .error fault blamed rest) :
    fault.IsGrammatical := by
  induction n generalizing ts with
  | zero =>
    obtain rfl : ts = [] := List.length_eq_zero_iff.mp (Nat.le_zero.mp hn)
    cases h
  | succ n ih =>
    cases ts with
    | nil => cases h
    | cons t ts =>
      rw [statements_cons] at h
      rcases bind_eq_error.mp h with hfirst | ⟨first, mid, hfirst, hmore⟩
      · exact isGrammatical_of_statement hfirst
      · rcases bind_eq_error.mp hmore with hmore | ⟨more, last, _, hpure⟩
        · have hshorter := length_lt_of_statement hfirst
          rw [List.length_cons] at hn hshorter
          exact ih (by omega) hmore
        · cases hpure

theorem failsByGrammar_program : FailsByGrammar program :=
  fun h => failsByGrammar_statements (Nat.le_refl _) h

/-- On a list that goes on with the same token where the first run failed, the parser fails with the
same fault, as far from the end of what is common. -/
theorem error_of_agreeing {p : Parser α} {g : α → α} {common last last' blamed rest : List Token}
    {fault : SyntaxFault} (hhead : last'.head? = last.head?)
    (hp : Corresponds (.agreeing hhead) g p p) (hgrammar : FailsByGrammar p)
    (h : p (common ++ last) = .error fault blamed rest) (hrest : rest.length = last.length) :
    ∃ between, blamed = between ++ last ∧
      p (common ++ last') = .error fault (between ++ last') last' := by
  have hrelates := hp.relates (common ++ last) (common ++ last') ⟨common, rfl, rfl⟩
  rw [h] at hrelates
  generalize hsecond : p (common ++ last') = second at hrelates
  cases hrelates with
  | error _ hblamed hrest' =>
    obtain ⟨between, rfl, rfl⟩ := hblamed
    obtain ⟨taken, rfl, rfl⟩ := hrest'
    obtain rfl : taken = [] := by
      rw [List.length_append] at hrest
      exact List.length_eq_zero_iff.mp (by omega)
    exact ⟨between, rfl, rfl⟩
  | lost hlost => exact absurd hrest (Nat.ne_of_lt hlost)
  | tooDeep => exact (hgrammar h).elim
  | tooDeep' => exact (hgrammar hsecond).elim

end Parser
/-! ## Whole scripts -/

namespace TokenStream

variable {α : Type}

/-- The tokens as they are read. A list that does not end with an end token is given one. -/
def closed (ts : List Token) : List Token :=
  if ts.getLast?.map Token.kind = some .eof then ts else ts ++ [missingStop ts]

/-- The index of the next token, where a parser stops. -/
def cursor (s : TokenStream) (p : Parser α) : Nat :=
  s.tokens.length - (p s.tokens).rest.length

/-- The lists have the same tokens up to the index `n`, the one at `n` included. -/
def AgreeUpTo (n : Nat) (ts us : List Token) : Prop :=
  (closed us).take (n + 1) = (closed ts).take (n + 1)

theorem kind_of_mem_tokens {ts : List Token} {t : Token} (h : t ∈ (ofTokens ts).tokens) :
    t.kind ≠ .eof := by
  have hall : (ofTokens ts).tokens.all (·.kind != .eof) = true := List.all_takeWhile
  exact bne_iff_ne.mp (List.all_eq_true.mp hall t h)

theorem exists_closed_eq (ts : List Token) :
    (ofTokens ts).stop.kind = .eof ∧
      ∃ more, closed ts = (ofTokens ts).tokens ++ (ofTokens ts).stop :: more := by
  have hsplit : (ofTokens ts).tokens ++ ts.dropWhile (·.kind != .eof) = ts :=
    List.takeWhile_append_dropWhile
  rw [stop_eq, closed]
  cases hrest : ts.dropWhile (·.kind != .eof) with
  | nil =>
    rw [hrest, List.append_nil] at hsplit
    have hlast : ¬ ts.getLast?.map Token.kind = some .eof := by
      intro hlast
      obtain ⟨t, ht, hk⟩ := Option.map_eq_some_iff.mp hlast
      exact kind_of_mem_tokens (hsplit.symm ▸ List.mem_of_getLast? ht) hk
    rw [if_neg hlast, hsplit]
    exact ⟨rfl, [], rfl⟩
  | cons t rest =>
    have ht : t.kind = .eof := by
      have hfails := List.head?_dropWhile_not (·.kind != .eof) ts
      rw [hrest] at hfails
      simpa using hfails
    refine ⟨ht, ?_⟩
    rw [hrest] at hsplit
    split
    · exact ⟨rest, hsplit.symm⟩
    · refine ⟨rest ++ [missingStop ts], ?_⟩
      rw [← List.cons_append, ← List.append_assoc]
      exact congrArg (· ++ _) hsplit.symm

/-- The end token of one list cannot stand where the other has a token that is none. -/
theorem exists_common_of_take {xs ys more more' : List Token} {x y : Token} {n : Nat}
    (hxs : ∀ t ∈ xs, t.kind ≠ .eof) (hys : ∀ t ∈ ys, t.kind ≠ .eof) (hx : x.kind = .eof)
    (hy : y.kind = .eof) (hn : n ≤ xs.length)
    (h : (ys ++ y :: more').take (n + 1) = (xs ++ x :: more).take (n + 1)) :
    ∃ common last last', xs = common ++ last ∧ ys = common ++ last' ∧ common.length = n ∧
      last'.head? = last.head? ∧ (last = [] → y = x) := by
  induction n generalizing xs ys with
  | zero =>
    refine ⟨[], xs, ys, rfl, rfl, rfl, ?_⟩
    cases xs with
    | nil =>
      cases ys with
      | nil => exact ⟨rfl, fun _ => (List.cons.inj h).1⟩
      | cons t ys => exact absurd ((List.cons.inj h).1 ▸ hx) (hys t List.mem_cons_self)
    | cons t xs =>
      cases ys with
      | nil => exact absurd ((List.cons.inj h).1 ▸ hy) (hxs t List.mem_cons_self)
      | cons u ys => exact ⟨congrArg some (List.cons.inj h).1, fun hnil => by cases hnil⟩
  | succ n ih =>
    cases xs with
    | nil => exact absurd hn (Nat.not_succ_le_zero n)
    | cons t xs =>
      cases ys with
      | nil => exact absurd ((List.cons.inj h).1 ▸ hy) (hxs t List.mem_cons_self)
      | cons u ys =>
        obtain ⟨rfl, hmore⟩ := List.cons.inj h
        obtain ⟨common, last, last', rfl, rfl, hlength, hlast⟩ :=
          ih (List.forall_mem_cons.mp hxs).2 (List.forall_mem_cons.mp hys).2
            (Nat.le_of_succ_le_succ hn) hmore
        exact ⟨u :: common, last, last', rfl, rfl, congrArg (· + 1) hlength, hlast⟩

theorem AgreeUpTo.exists_common {n : Nat} {ts us : List Token} (h : AgreeUpTo n ts us)
    (hn : n ≤ (ofTokens ts).tokens.length) :
    ∃ common last last', (ofTokens ts).tokens = common ++ last ∧
      (ofTokens us).tokens = common ++ last' ∧ common.length = n ∧ last'.head? = last.head? ∧
      (last = [] → (ofTokens us).stop = (ofTokens ts).stop) := by
  obtain ⟨hstop, more, hts⟩ := exists_closed_eq ts
  obtain ⟨hstop', more', hus⟩ := exists_closed_eq us
  rw [AgreeUpTo, hts, hus] at h
  exact exists_common_of_take (fun _ => kind_of_mem_tokens) (fun _ => kind_of_mem_tokens) hstop
    hstop' hn h

theorem parse_eq_error {s : TokenStream} {p : Parser α} {e : SyntaxError} :
    s.parse p = .error e ↔
      ∃ fault blamed rest, p s.tokens = .error fault blamed rest ∧ s.errorAt fault blamed = e := by
  rw [parse]
  cases p s.tokens with
  | ok a rest => simp
  | error fault blamed rest =>
    constructor
    · intro h
      exact ⟨fault, blamed, rest, rfl, Except.error.inj h⟩
    · intro h
      obtain ⟨_, _, _, herror, he⟩ := h
      cases herror
      exact congrArg Except.error he

theorem errorAt_common {s s' : TokenStream} {common last last' : List Token}
    (hs : s.tokens = common ++ last) (hs' : s'.tokens = common ++ last')
    (hhead : last'.head? = last.head?) (hstop : last = [] → s'.stop = s.stop)
    (fault : SyntaxFault) (between : List Token) :
    s'.errorAt fault (between ++ last') = s.errorAt fault (between ++ last) := by
  have htoken : (between ++ last').head?.getD s'.stop = (between ++ last).head?.getD s.stop := by
    rw [List.head?_append, List.head?_append, hhead]
    cases between with
    | cons t between => rfl
    | nil =>
      cases last with
      | cons t last => rfl
      | nil => exact hstop rfl
  have hindex : s'.tokens.length - (between ++ last').length =
      s.tokens.length - (between ++ last).length := by
    rw [hs, hs']
    simp only [List.length_append]
    omega
  rw [errorAt, errorAt, htoken, hindex]

/-- Where a parser fails on one list, it fails in the same way on every list that agrees with it up
to the next token. -/
theorem parse_of_agreeUpTo {p : Parser α} {g : α → α} {ts us : List Token} {e : SyntaxError}
    (hp : ∀ {last last' : List Token} (hhead : last'.head? = last.head?),
      Parser.Corresponds (.agreeing hhead) g p p) (hgrammar : p.FailsByGrammar)
    (h : (ofTokens ts).parse p = .error e) (hagree : AgreeUpTo ((ofTokens ts).cursor p) ts us) :
    (ofTokens us).parse p = .error e := by
  obtain ⟨fault, blamed, rest, herror, rfl⟩ := parse_eq_error.mp h
  obtain ⟨common, last, last', hts, hus, hlength, hhead, hstop⟩ :=
    hagree.exists_common (Nat.sub_le _ _)
  have hle : rest.length ≤ (ofTokens ts).tokens.length := by
    have hnil : ([] : List Token).head? = ([] : List Token).head? := rfl
    have hshrinks := (hp hnil).shrinks (ofTokens ts).tokens
    rw [herror] at hshrinks
    exact hshrinks
  have hrest : rest.length = last.length := by
    rw [cursor, herror, Parsed.rest, hts, List.length_append] at hlength
    rw [hts, List.length_append] at hle
    omega
  rw [hts] at herror
  obtain ⟨between, rfl, herror'⟩ :=
    Parser.error_of_agreeing hhead (hp hhead) hgrammar herror hrest
  rw [← hus] at herror'
  exact parse_eq_error.mpr ⟨fault, _, last', herror', errorAt_common hts hus hhead hstop _ _⟩

end TokenStream

/-- A syntax error is decided by the tokens up to the cursor, for the statements of a script as well
as for a single expression. Every list of tokens that agrees with the first one up to the cursor,
the token there included, fails with the same error, and the same is reported. -/
theorem syntax_error_of_agreeUpTo (file : String) (ts us : List Token) (e : SyntaxError) :
    (parseProgram ts = .error e →
      TokenStream.AgreeUpTo ((TokenStream.ofTokens ts).cursor Parser.program) ts us →
      parseProgram us = .error e ∧
        Script.parseWith parseProgram file us = Script.parseWith parseProgram file ts) ∧
    (parseExpression ts = .error e →
      TokenStream.AgreeUpTo ((TokenStream.ofTokens ts).cursor Parser.single) ts us →
      parseExpression us = .error e ∧
        Script.parseWith parseExpression file us = Script.parseWith parseExpression file ts) := by
  constructor
  · intro h hagree
    have hsame : parseProgram us = .error e :=
      TokenStream.parse_of_agreeUpTo (fun _ => Parser.corresponds_program)
        Parser.failsByGrammar_program h hagree
    refine ⟨hsame, ?_⟩
    rw [Script.parseWith, Script.parseWith, hsame, h]
  · intro h hagree
    have hsame : parseExpression us = .error e :=
      TokenStream.parse_of_agreeUpTo (fun _ => Parser.corresponds_single)
        Parser.failsByGrammar_single h hagree
    refine ⟨hsame, ?_⟩
    rw [Script.parseWith, Script.parseWith, hsame, h]

/-- The tokens of `nil(x) y`. What is called is no name, which is noticed at the last token. -/
def nilCalled : List Token :=
  [⟨.nilWord, "nil", .nil, 1, 1, 0⟩, ⟨.leftParen, "(", .nil, 1, 4, 3⟩,
    ⟨.identifier, "x", .nil, 1, 5, 4⟩, ⟨.rightParen, ")", .nil, 1, 6, 5⟩,
    ⟨.identifier, "y", .nil, 1, 8, 7⟩]

/-- The error is blamed on the parenthesis. An end token behind the last token, or a brace and more,
leaves it as it is. -/
theorem syntax_error_of_agreeUpTo_nilCalled :
    let e : SyntaxError := ⟨.notCallable, ⟨.leftParen, "(", .nil, 1, 4, 3⟩, 1⟩
    let us := nilCalled ++ [⟨.rightBrace, r"}", .nil, 2, 1, 9⟩, ⟨.nilWord, "nil", .nil, 2, 2, 10⟩]
    let ts := nilCalled ++ [default]
    (parseProgram ts = .error e ∧ TokenStream.AgreeUpTo 4 ts us ∧ parseProgram us = .error e) ∧
      (parseExpression ts = .error e ∧ TokenStream.AgreeUpTo 4 ts us ∧
        parseExpression us = .error e) := by
  intro e us ts
  have hprogram : parseProgram ts = .error e := rfl
  have hexpression : parseExpression ts = .error e := rfl
  have hagree : TokenStream.AgreeUpTo 4 ts us := rfl
  obtain ⟨hfirst, hsecond⟩ := syntax_error_of_agreeUpTo "" ts us e
  exact ⟨⟨hprogram, hagree, (hfirst hprogram hagree).1⟩,
    ⟨hexpression, hagree, (hsecond hexpression hagree).1⟩⟩

end RiftScript
