/-
A semicolon shields what follows it from the errors before it.

Reading stops at a semicolon that ends tokens without braces, or fails before it, and after a
failure the parser goes on behind that semicolon at the latest. Either way it looks at nothing that
follows. So parsing with recovery takes a script apart at such a semicolon: the statements and the
errors are those of the first part and then those of the second.

A limit on errors comes in between. `Unlimited` gives the statements and the errors that a script
has if there is no limit, and they are what parsing gives under every limit that is not reached.
-/
import RiftScript.Proofs.Parsing.Correspondence
import RiftScript.Proofs.Recovery.Progress

namespace RiftScript

/-- The same error in a script with `k` more tokens in front. -/
def SyntaxError.shift (k : Nat) (e : SyntaxError) : SyntaxError :=
  { e with index := k + e.index }

theorem BodyYields.exists_brace {after : Expr → Option Token → Prop} {body : List Stmt}
    {ts : List Token} (h : BodyYields after body ts) : ∃ brace ∈ ts, brace.kind = .leftBrace := by
  cases h with
  | @braced opening _ _ _ ho => exact ⟨opening, by simp, ho⟩

/-- Only an expression statement is spelled without braces. -/
theorem Stmt.Yields.expression_or_brace {after : Expr → Option Token → Prop} {s : Stmt}
    {ts : List Token} {next : Option Token} (h : s.Yields after ts next) :
    (∃ value, s = .expression value) ∨ ∃ brace ∈ ts, brace.kind = .leftBrace := by
  cases h with
  | terminated => exact .inl ⟨_, rfl⟩
  | bare => exact .inl ⟨_, rfl⟩
  | block hb => exact .inr hb.exists_brace
  | conditional _ _ _ _ hb | alternative _ _ _ _ hb | loop _ _ _ _ hb =>
    obtain ⟨brace, hmem, hk⟩ := hb.exists_brace
    exact .inr ⟨brace, by simp [hmem], hk⟩
  | combo _ hb =>
    obtain ⟨brace, hmem, hk⟩ := hb.exists_brace
    exact .inr ⟨brace, by simp [hmem], hk⟩
  | @champion _ _ opening _ _ _ _ _ _ ho => exact .inr ⟨opening, by simp, ho⟩

namespace Recovery

open RiftScript.Parser (statement)

/-! ## Tokens up to a semicolon -/

/-- Tokens without braces, the last of which is a semicolon if there are any. -/
structure Terminated (ts : List Token) : Prop where
  braceless : ∀ t ∈ ts, t.kind ≠ .leftBrace ∧ t.kind ≠ .rightBrace
  ended : ∀ t ∈ ts.getLast?, t.kind = .semicolon

/-- The second list goes on behind the last token of the first. -/
def continued (last : Token) (more : List Token) : Correspondence .stay where
  inputs ts us := ∃ front, ts = front ++ [last] ∧ us = front ++ last :: more
  lost ts := ts = []
  nil := by
    rintro us ⟨front, hts, _⟩
    exact absurd hts.symm (List.append_ne_nil_of_right_ne_nil _ (List.cons_ne_nil _ _))
  cons := by
    rintro t ts us ⟨front, hts, rfl⟩
    cases front with
    | nil =>
      obtain ⟨rfl, rfl⟩ := List.cons.inj hts
      exact ⟨more, rfl, .inr rfl⟩
    | cons u front =>
      obtain ⟨rfl, rfl⟩ := List.cons.inj hts
      exact ⟨front ++ last :: more, rfl, .inl ⟨front, rfl, rfl⟩⟩
  lost_of_le := by
    rintro _ us rfl hle
    exact List.length_eq_zero_iff.mp (Nat.le_zero.mp hle)

namespace Terminated

variable {ts us blamed rest : List Token} {fault : SyntaxFault} {s : Stmt}

theorem suffix (h : Terminated ts) (hsuffix : us <:+ ts) : Terminated us := by
  obtain ⟨front, rfl⟩ := hsuffix
  refine ⟨fun t ht => h.braceless t (List.mem_append_right _ ht), fun t ht => h.ended t ?_⟩
  rw [List.getLast?_append, ht]
  rfl

theorem not_halted (h : Terminated ts) (hne : ts ≠ []) : ¬ Halted ts := by
  have hlast := List.getLast?_eq_some_getLast hne
  rintro (hopen | ⟨_, hhalted⟩)
  · have hclosed := openBraces_of_braceless h.braceless
    omega
  · exact hhalted _ hlast (h.ended _ hlast)

/-! ### Reading -/

/-- An expression does not reach to the semicolon. -/
theorem not_yields (h : Terminated ts) {e : Expr} (hwf : e.wellFormed = true) :
    ¬ e.Yields ts := by
  intro hyields
  have hends : e.EndsBefore 0 [] := fun t ht => by cases ht
  have hread : Parser.expression (ts ++ []) = .ok e [] :=
    Parser.expression_of_yields hyields hwf hends
  have hinline : Parser.ReadsInline (ts ++ []) (Parser.expression (ts ++ [])) :=
    Parser.readsInline_expression
  rw [hread] at hinline
  obtain ⟨taken, htaken, hall⟩ := hinline
  rw [List.append_nil, List.append_nil] at htaken
  subst htaken
  obtain ⟨t, us, rfl, _⟩ := hyields.opens hwf
  exact h.not_halted (List.cons_ne_nil t us) (halted_of_allInline hall)

theorem statement_append_ok (h : Terminated ts) (hok : statement ts = .ok s rest)
    (more : List Token) : statement (ts ++ more) = .ok s (rest ++ more) := by
  obtain ⟨ys, rfl, hyield, hwf⟩ :=
    @Parser.spelled_of_statement Expr.Apart (fun _ _ ha => ha) _ _ _ hok
  rcases hyield.expression_or_brace with ⟨value, rfl⟩ | ⟨brace, hbrace, hk⟩
  · cases hyield with
    | @terminated _ semicolon us _ hv hs =>
      rw [List.append_assoc, List.append_assoc, Parser.statement_of_opens (hv.opens hwf)]
      exact Parser.expressionStatement_terminated hv hwf hs
    | bare hv ha =>
      cases rest with
      | nil =>
        rw [List.append_nil] at h
        exact absurd hv (h.not_yields hwf)
      | cons t rest =>
        rw [List.append_assoc, Parser.statement_of_opens (hv.opens hwf)]
        exact Parser.expressionStatement_bare hv hwf ha
  · -- A statement of any other kind has a brace.
    exact absurd hk (h.braceless brace (List.mem_append_left rest hbrace)).1

theorem statement_append_error (h : Terminated ts) (hne : ts ≠ [])
    (herror : statement ts = .error fault blamed rest) (more : List Token) :
    statement (ts ++ more) = .error fault (blamed ++ more) (rest ++ more) ∧ rest ≠ [] := by
  have hrest : rest ≠ [] := by
    rintro rfl
    obtain ⟨_, before, between, hts, _, hhalted⟩ := taken_of_error herror
    rw [List.append_nil] at hts
    exact h.not_halted hne (hts ▸ hhalted)
  -- The semicolon is still to be read, so the correspondence was never lost.
  obtain ⟨front, last, rfl⟩ : ∃ front last, ts = front ++ [last] :=
    ⟨ts.dropLast, ts.getLast hne, (List.dropLast_concat_getLast hne).symm⟩
  have hrelates := Parser.corresponds_statement.relates (c := continued last more) _ _
    ⟨front, rfl, List.append_assoc front [last] more⟩
  rw [herror] at hrelates
  refine ⟨?_, hrest⟩
  generalize hsecond : statement (front ++ [last] ++ more) = second at hrelates
  cases hrelates with
  | error fault hblamed hinputs =>
    obtain ⟨_, rfl, rfl⟩ := hblamed
    obtain ⟨_, rfl, rfl⟩ := hinputs
    rw [List.append_assoc, List.append_assoc]
    rfl
  | lost hlost => exact absurd hlost hrest
  | tooDeep => exact (taken_of_error herror).1.elim
  | tooDeep' => exact (taken_of_error hsecond).1.elim

end Terminated

/-! ## Skipping -/

/-- Skipping stops behind the last semicolon at the latest. -/
theorem skip_append {line : Int} {before : TokenKind} {ts : List Token}
    (hts : ∀ t ∈ ts, t.kind ≠ .leftBrace ∧ t.kind ≠ .rightBrace)
    (hlast : ∀ k ∈ (before :: ts.map Token.kind).getLast?, k = .semicolon) (more : List Token) :
    skip line 0 before (ts ++ more) = skip line 0 before ts ++ more := by
  induction ts generalizing before with
  | nil =>
    obtain rfl : before = .semicolon := hlast before rfl
    cases more with
    | nil => rfl
    | cons t more =>
      have hstop : (0 : Int) ≤ 0 ∧ isBoundary line .semicolon t = true := ⟨Int.le_refl 0, rfl⟩
      show skip line 0 .semicolon (t :: more) = t :: more
      rw [skip, if_pos hstop]
  | cons t ts ih =>
    obtain ⟨ht, hts⟩ := List.forall_mem_cons.mp hts
    rw [List.cons_append, skip, skip]
    by_cases hstop : (0 : Int) ≤ 0 ∧ isBoundary line before t = true
    · rw [if_pos hstop, if_pos hstop, List.cons_append]
    · have hclosing : ¬ (t.kind = .rightBrace ∧ (0 : Int) = 1) := fun h => ht.2 h.1
      rw [if_neg hstop, if_neg hstop, if_neg hclosing, if_neg hclosing,
        braceChange_of_braceless ht]
      exact ih hts hlast

theorem Terminated.resume_append {ts blamed rest : List Token} {fault : SyntaxFault}
    (h : Terminated ts) (herror : statement ts = .error fault blamed rest) (hrest : rest ≠ [])
    (more : List Token) : resume (ts ++ more) (rest ++ more) = resume ts rest ++ more := by
  obtain ⟨_, before, between, rfl, _, _⟩ := taken_of_error herror
  generalize before ++ between = taken at h ⊢
  obtain ⟨t, us, rfl⟩ := List.exists_cons_of_ne_nil hrest
  have hsuffix : Terminated (t :: us) := h.suffix (List.suffix_append _ _)
  have hlast : ∀ k ∈ (t.kind :: us.map Token.kind).getLast?, k = .semicolon := by
    intro k hk
    rw [← List.map_cons, List.getLast?_map] at hk
    obtain ⟨last, hlast, rfl⟩ := Option.map_eq_some_iff.mp hk
    exact hsuffix.ended last hlast
  rw [List.append_assoc, List.cons_append]
  cases htaken : taken.getLast? with
  | none =>
    obtain rfl := List.getLast?_eq_none_iff.mp htaken
    rw [List.nil_append, List.nil_append, resume_of_nothing, resume_of_nothing,
      braceChange_of_braceless (hsuffix.braceless t (by simp))]
    exact skip_append (fun u hu => hsuffix.braceless u (List.mem_cons_of_mem t hu)) hlast more
  | some last =>
    have hclosed : openBraces taken = 0 :=
      openBraces_of_braceless fun u hu => h.braceless u (List.mem_append_left _ hu)
    rw [resume_of_taken htaken, resume_of_taken htaken, hclosed]
    exact skip_append hsuffix.braceless hlast more

/-! ## Runs without a limit -/

section Runs

variable {s : TokenStream} {limit : Int} {n found : Nat} {ts last : List Token}
  {statements : List Stmt} {failures : List SyntaxError}

/-- Under every limit that is not reached, these are the statements and the errors of the tokens
`ts`, and they are parsed to their end. -/
def Unlimited (s : TokenStream) (ts : List Token) (statements : List Stmt)
    (failures : List SyntaxError) : Prop :=
  ∀ (limit : Int) (found : Nat), found + failures.length < limit →
    Runs s limit found ts statements failures []

theorem Runs.unlimited (h : Runs s limit found ts statements failures last)
    (hcount : found + failures.length < limit) : Unlimited s ts statements failures := by
  induction h with
  | finish => exact fun _ _ _ => .finish
  | read hne h more ih => exact fun limit' found' hlt => .read hne h (ih hcount limit' found' hlt)
  | skip hne h hgo more ih =>
    intro limit' found' hlt
    rw [List.length_cons] at hcount hlt
    exact .skip hne h (.inl (by omega)) (ih (by omega) limit' (found' + 1) (by omega))
  | giveUp hne h hlimit hnext =>
    rw [List.length_singleton] at hcount
    omega

theorem exists_unlimited (s : TokenStream) (ts : List Token) :
    ∃ statements failures, Unlimited s ts statements failures := by
  obtain ⟨statements, failures, last, hruns, _⟩ :=
    @exists_runs s (ts.length + 1) 0 ts _ (Nat.le_refl _)
  have hlength := hruns.length_le
  exact ⟨statements, failures, hruns.unlimited (by omega)⟩

namespace Unlimited

theorem collect_eq (h : Unlimited s ts statements failures) (hn : ts.length ≤ n) (limit : Int)
    (hcount : failures.length < limit) :
    collect s limit n 0 ts = ⟨statements, failures⟩ := by
  rw [collect_of_runs (h limit 0 (by omega)) hn, closing, if_pos rfl, List.append_nil]

/-- A limit that was not reached is larger than the number of errors. -/
theorem length_lt (h : Unlimited s ts statements failures) (hn : ts.length ≤ n)
    (hcount : ((collect s limit n 0 ts).errors.length : Int) < limit) :
    (failures.length : Int) < limit := by
  obtain ⟨statements', failures', last, hruns, hcollect⟩ := @exists_runs s limit 0 ts n hn
  rw [hcollect, List.length_append] at hcount
  have hunlimited := hruns.unlimited (by omega)
  -- Under a limit that neither list of errors reaches, both runs are the one run there is.
  have hlarge := h.collect_eq hn (failures.length + failures'.length + 1) (by omega)
  rw [hunlimited.collect_eq hn _ (by omega)] at hlarge
  obtain ⟨_, rfl⟩ := Outcome.mk.inj hlarge
  omega

end Unlimited

/-! ## Taking a script apart -/

variable {first second : List Token} {stop stop' : Token}

theorem errorAt_front {fault : SyntaxFault} {blamed : List Token} (hne : blamed ≠ [])
    (hblamed : blamed <:+ first) :
    TokenStream.errorAt ⟨first ++ second, stop⟩ fault (blamed ++ second) =
      TokenStream.errorAt ⟨first, stop'⟩ fault blamed := by
  obtain ⟨t, us, rfl⟩ := List.exists_cons_of_ne_nil hne
  have hindex : (first ++ second).length - (t :: us ++ second).length =
      first.length - (t :: us).length := by
    rw [List.length_append, List.length_append]
    omega
  simp only [TokenStream.errorAt, hindex]
  rfl

theorem errorAt_back {fault : SyntaxFault} {blamed : List Token} (hblamed : blamed <:+ second) :
    TokenStream.errorAt ⟨first ++ second, stop⟩ fault blamed =
      (TokenStream.errorAt ⟨second, stop⟩ fault blamed).shift first.length := by
  have hle := hblamed.length_le
  have hindex : (first ++ second).length - blamed.length =
      first.length + (second.length - blamed.length) := by
    rw [List.length_append]
    omega
  simp only [TokenStream.errorAt, SyntaxError.shift, hindex]

theorem Runs.back (h : Runs ⟨second, stop⟩ limit found ts statements failures last)
    (hts : ts <:+ second) :
    Runs ⟨first ++ second, stop⟩ limit found ts statements
      (failures.map (SyntaxError.shift first.length)) last := by
  induction h with
  | finish => exact .finish
  | read hne h more ih => exact .read hne h (ih ((rest_suffix h).trans hts))
  | skip hne h hgo more ih =>
    rw [List.map_cons, ← errorAt_back ((blamed_suffix h).trans hts)]
    exact .skip hne h hgo (ih ((resume_suffix h).trans hts))
  | giveUp hne h hlimit hnext =>
    rw [List.map_singleton, ← errorAt_back ((blamed_suffix h).trans hts)]
    exact .giveUp hne h hlimit hnext

theorem Runs.front {statements' : List Stmt} {failures' : List SyntaxError}
    (h : Runs ⟨first, stop'⟩ limit found ts statements failures last) (hts : ts <:+ first)
    (hterminated : Terminated ts) (hcount : found + failures.length < limit)
    (hback : Runs ⟨first ++ second, stop⟩ limit (found + failures.length) second statements'
      failures' []) :
    Runs ⟨first ++ second, stop⟩ limit found (ts ++ second) (statements ++ statements')
      (failures ++ failures') [] := by
  -- Along the run over the first part, what is left of it ends with its semicolon, so each step
  -- can be taken with the second part behind it.
  induction h with
  | finish => exact hback
  | read hne h more ih =>
    have hrest := rest_suffix h
    have hfirst := hterminated.statement_append_ok h second
    refine .read (List.append_ne_nil_of_left_ne_nil hne _) hfirst ?_
    exact ih (hrest.trans hts) (hterminated.suffix hrest) hcount hback
  | @skip found ts blamed rest last fault statements failures hne h hgo more ih =>
    have hresume := resume_suffix h
    obtain ⟨hwhole, hrest⟩ := hterminated.statement_append_error hne h second
    have hnext := hterminated.resume_append h hrest second
    have hblamed : blamed ≠ [] := by
      obtain ⟨_, _, between, _, hbetween, _⟩ := taken_of_error h
      rw [hbetween]
      exact List.append_ne_nil_of_right_ne_nil between hrest
    rw [List.length_cons] at hcount hback
    rw [List.cons_append, ← errorAt_front hblamed ((blamed_suffix h).trans hts)]
    refine .skip (List.append_ne_nil_of_left_ne_nil hne _) hwhole (.inl (by omega)) ?_
    rw [hnext]
    refine ih (hresume.trans hts) (hterminated.suffix hresume) (by omega) ?_
    rwa [Nat.add_assoc, Nat.add_comm 1]
  | giveUp hne h hlimit hnext =>
    rw [List.length_singleton] at hcount
    omega

theorem Unlimited.append {statements' : List Stmt} {failures' : List SyntaxError}
    (h : Unlimited ⟨first, stop'⟩ first statements failures) (hfirst : Terminated first)
    (h' : Unlimited ⟨second, stop⟩ second statements' failures') :
    Unlimited ⟨first ++ second, stop⟩ (first ++ second) (statements ++ statements')
      (failures ++ failures'.map (SyntaxError.shift first.length)) := by
  intro limit found hcount
  rw [List.length_append, List.length_map] at hcount
  have hback := h' limit (found + failures.length) (by omega)
  exact (h limit found (by omega)).front (List.suffix_refl first) hfirst (by omega)
    (hback.back (List.suffix_refl second))

end Runs

end Recovery

/-! ## Whole scripts -/

theorem exists_firstStop (ts : List Token) {stop : Token} (hstop : stop.kind = .eof) :
    ∃ us stop' vs, ts ++ [stop] = us ++ stop' :: vs ∧ (∀ t ∈ us, t.kind ≠ .eof) ∧
      stop'.kind = .eof := by
  induction ts with
  | nil => exact ⟨[], stop, [], rfl, List.forall_mem_nil _, hstop⟩
  | cons t ts ih =>
    by_cases ht : t.kind = .eof
    · exact ⟨[], t, ts ++ [stop], rfl, List.forall_mem_nil _, ht⟩
    · obtain ⟨us, stop', vs, hsplit, hus, hstop'⟩ := ih
      exact ⟨t :: us, stop', vs, by rw [List.cons_append, hsplit, List.cons_append],
        List.forall_mem_cons.mpr ⟨ht, hus⟩, hstop'⟩

/-- One reading and then another. -/
structure Reading.Joins (front back whole : Reading Recovery.Outcome) : Prop where
  statements : whole.result.statements = front.result.statements ++ back.result.statements
  diagnostics : whole.diagnostics = front.diagnostics ++ back.diagnostics
  lines : whole.lines = front.lines ++ back.lines

theorem diagnostics_parseThrough (limit : Option Int) (file : String) (ts : List Token) :
    (Script.parseThrough limit file ts).diagnostics =
      (parseRecovering ts limit).errors.map .ofSyntaxError := by
  rw [Reading.diagnostics, Script.parseThrough, List.filterMap_map]
  exact congrFun List.filterMap_eq_map _

theorem lines_parseThrough (limit : Option Int) (file : String) (ts : List Token) :
    (Script.parseThrough limit file ts).lines =
      (parseRecovering ts limit).errors.map SyntaxError.report := by
  rw [Reading.lines, Script.parseThrough, List.filterMap_map]
  exact congrFun List.filterMap_eq_map _

section Limits

variable {s : TokenStream} {ts : List Token} {statements : List Stmt} {failures : List SyntaxError}

theorem parseRecovering_of_unlimited (hs : TokenStream.ofTokens ts = s)
    (h : Recovery.Unlimited s s.tokens statements failures) (limit : Option Int)
    (hcount : failures.length < limit.getD 100) :
    parseRecovering ts limit = ⟨statements, failures⟩ := by
  subst hs
  exact h.collect_eq (Nat.le_refl _) _ hcount

theorem length_lt_of_diagnostics (hs : TokenStream.ofTokens ts = s)
    (h : Recovery.Unlimited s s.tokens statements failures) (limit : Option Int) (file : String)
    (hcount : (Script.parseThrough limit file ts).diagnostics.length < limit.getD 100) :
    failures.length < limit.getD 100 := by
  subst hs
  rw [diagnostics_parseThrough, List.length_map] at hcount
  exact h.length_lt (Nat.le_refl _) hcount

end Limits

/-- Tokens without braces up to a semicolon are parsed by themselves, and so is what follows them,
whatever is wrong with either, as long as the limit on errors is not reached. -/
theorem parseThrough_append {first second : List Token} {stop stop' : Token} (limit : Option Int)
    (file : String)
    (hfirst : ∀ t ∈ first, t.kind ≠ .eof ∧ t.kind ≠ .leftBrace ∧ t.kind ≠ .rightBrace)
    (hlast : first.getLast?.map Token.kind = some .semicolon) (hstop : stop.kind = .eof)
    (hstop' : stop'.kind = .eof)
    (hcount : (Script.parseThrough limit file (first ++ second ++ [stop])).diagnostics.length <
        limit.getD 100 ∨
      (Script.parseThrough limit file (first ++ [stop'])).diagnostics.length +
        (Script.parseThrough limit file (second ++ [stop])).diagnostics.length < limit.getD 100) :
    Reading.Joins (Script.parseThrough limit file (first ++ [stop']))
      (Script.parseThrough limit file (second ++ [stop]))
      (Script.parseThrough limit file (first ++ second ++ [stop])) := by
  have heof : ∀ t ∈ first, t.kind ≠ .eof := fun t ht => (hfirst t ht).1
  have hterminated : Recovery.Terminated first := by
    refine ⟨fun t ht => (hfirst t ht).2, fun t ht => ?_⟩
    rw [ht, Option.map_some] at hlast
    exact Option.some.inj hlast
  obtain ⟨us, stop₂, vs, hsplit, hus, hstop₂⟩ := exists_firstStop second hstop
  have hfront : TokenStream.ofTokens (first ++ [stop']) = ⟨first, stop'⟩ :=
    TokenStream.ofTokens_append heof hstop'
  have hback : TokenStream.ofTokens (second ++ [stop]) = ⟨us, stop₂⟩ := by
    rw [hsplit]
    exact TokenStream.ofTokens_append_cons hus hstop₂
  have hwhole : TokenStream.ofTokens (first ++ second ++ [stop]) = ⟨first ++ us, stop₂⟩ := by
    rw [List.append_assoc, hsplit, ← List.append_assoc]
    refine TokenStream.ofTokens_append_cons (fun t ht => ?_) hstop₂
    rcases List.mem_append.mp ht with ht | ht
    · exact heof t ht
    · exact hus t ht
  obtain ⟨statements, failures, h⟩ := Recovery.exists_unlimited ⟨first, stop'⟩ first
  obtain ⟨statements', failures', h'⟩ := Recovery.exists_unlimited ⟨us, stop₂⟩ us
  have happend := h.append hterminated h'
  have hlt : failures.length + failures'.length < limit.getD 100 := by
    rcases hcount with hcount | hcount
    · have hlength := length_lt_of_diagnostics hwhole happend limit file hcount
      rw [List.length_append, List.length_map] at hlength
      omega
    · have hlength := length_lt_of_diagnostics hfront h limit file (by omega)
      have hlength' := length_lt_of_diagnostics hback h' limit file (by omega)
      rw [diagnostics_parseThrough, diagnostics_parseThrough, List.length_map, List.length_map,
        parseRecovering_of_unlimited hfront h limit hlength,
        parseRecovering_of_unlimited hback h' limit hlength'] at hcount
      exact hcount
  have hparse := parseRecovering_of_unlimited hfront h limit (by omega)
  have hparse' := parseRecovering_of_unlimited hback h' limit (by omega)
  have hparses := parseRecovering_of_unlimited hwhole happend limit
    (by rw [List.length_append, List.length_map]; omega)
  refine ⟨?_, ?_, ?_⟩
  · show (parseRecovering (first ++ second ++ [stop]) limit).statements = _
    rw [hparses]
    show _ = (parseRecovering _ limit).statements ++ (parseRecovering _ limit).statements
    rw [hparse, hparse']
  · rw [diagnostics_parseThrough, diagnostics_parseThrough, diagnostics_parseThrough, hparses,
      hparse, hparse', List.map_append, List.map_map]
    rfl
  · rw [lines_parseThrough, lines_parseThrough, lines_parseThrough, hparses, hparse, hparse',
      List.map_append, List.map_map]
    rfl

/-- A condition that is not closed and an operand that is missing, each up to its semicolon. -/
@[irreducible] def brokenFront : List Token :=
  (scan "if (river; ping(); 1 +;").dropLast

/-- A brace that closes nothing and a body that is not closed. -/
@[irreducible] def brokenBack : List Token :=
  (scan r"} 2; combo { ping()").dropLast

theorem parseThrough_append_broken_statements :
    (Script.parseThrough none "" (brokenFront ++ brokenBack ++ [default])).diagnostics.length = 4 ∧
      Reading.Joins (Script.parseThrough none "" (brokenFront ++ [default]))
        (Script.parseThrough none "" (brokenBack ++ [default]))
        (Script.parseThrough none "" (brokenFront ++ brokenBack ++ [default])) := by
  have hcount : (Script.parseThrough none "" (brokenFront ++ brokenBack ++
      [default])).diagnostics.length = 4 := by decide +kernel
  refine ⟨hcount, parseThrough_append none "" ?_ ?_ rfl rfl (.inl ?_)⟩
  · decide +kernel
  · decide +kernel
  · rw [hcount]
    decide

end RiftScript
