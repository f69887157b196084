/-
Parsing with recovery makes progress and accounts for every error.

The loop that reads statements and passes over those that cannot be read is stated as a relation,
`Runs`, which has no bound on its rounds. Every script has a run, and the run is what
`parseRecovering` gives. Each round moves on by at least one token. Where the skipping stops at the
very token that was blamed, that token is a word that only a statement starts with, and the next
statement takes it. So no token is blamed twice.
-/
import RiftScript.Proofs.Parsing.Failures
import RiftScript.Proofs.Recovery.Refinement

namespace RiftScript

/-! ## Blamed tokens -/

namespace TokenStream

theorem token_errorAt (s : TokenStream) {fault : SyntaxFault} {blamed : List Token}
    (h : blamed <:+ s.tokens) :
    (s.tokens ++ [s.stop])[(s.errorAt fault blamed).index]? =
      some (s.errorAt fault blamed).token := by
  obtain ⟨before, htokens⟩ := h
  have hindex : (s.errorAt fault blamed).index = before.length := by
    show s.tokens.length - blamed.length = before.length
    rw [← htokens, List.length_append, Nat.add_sub_cancel]
  rw [hindex, ← htokens, List.append_assoc, List.getElem?_append_right (Nat.le_refl _),
    Nat.sub_self]
  cases blamed <;> rfl

/-- The tokens up to the end token are those of the list they were taken from. -/
theorem isPrefix_tokens (ts : List Token) :
    (ofTokens ts).tokens ++ [(ofTokens ts).stop] <+: ts ++ [missingStop ts] := by
  have hsplit : (ofTokens ts).tokens ++ ts.dropWhile (·.kind != .eof) = ts :=
    List.takeWhile_append_dropWhile
  rw [stop_eq]
  cases hrest : ts.dropWhile (·.kind != .eof) with
  | nil =>
    rw [hrest, List.append_nil] at hsplit
    rw [hsplit]
    exact List.prefix_refl _
  | cons t rest =>
    rw [hrest] at hsplit
    have hwhole : ts ++ [missingStop ts] =
        (ofTokens ts).tokens ++ t :: rest ++ [missingStop ts] := by rw [hsplit]
    rw [hwhole]
    exact ⟨rest ++ [missingStop ts], by simp⟩

theorem getElem?_of_stream {ts : List Token} {i : Nat} {t : Token}
    (h : ((ofTokens ts).tokens ++ [(ofTokens ts).stop])[i]? = some t) :
    (ts ++ [missingStop ts])[i]? = some t := by
  obtain ⟨hlt, rfl⟩ := List.getElem?_eq_some_iff.mp h
  exact List.prefix_iff_getElem?.mp (isPrefix_tokens ts) i hlt

end TokenStream

namespace Recovery

open RiftScript.Parser (statement)

/-! ## Skipping -/

theorem skip_suffix (line opened : Int) (before : TokenKind) (ts : List Token) :
    skip line opened before ts <:+ ts := by
  induction ts generalizing opened before with
  | nil => exact List.suffix_refl []
  | cons t ts ih =>
    rw [skip]
    split
    · exact List.suffix_refl _
    · split
      · exact List.suffix_cons t ts
      · exact (ih _ _).trans (List.suffix_cons t ts)

/-- Skipping passes the next token unless a statement may start there. -/
theorem skip_cases (line opened : Int) (before : TokenKind) (t : Token) (ts : List Token) :
    skip line opened before (t :: ts) <:+ ts ∨
      skip line opened before (t :: ts) = t :: ts ∧ opened ≤ 0 ∧
        isBoundary line before t = true := by
  rw [skip]
  split
  · next h => exact .inr ⟨rfl, h⟩
  · split
    · exact .inl (List.suffix_refl ts)
    · exact .inl (skip_suffix _ _ _ ts)

theorem resume_of_taken {taken : List Token} {before t : Token} {ts : List Token}
    (h : taken.getLast? = some before) :
    resume (taken ++ t :: ts) (t :: ts) =
      skip t.line (openBraces taken) before.kind (t :: ts) := by
  have hpassed :
      (taken ++ t :: ts).take ((taken ++ t :: ts).length - (t :: ts).length) = taken := by
    rw [List.length_append, Nat.add_sub_cancel, List.take_left]
  simp only [resume, hpassed, h]

theorem resume_of_nothing {t : Token} {ts : List Token} :
    resume (t :: ts) (t :: ts) = skip t.line (braceChange t.kind) t.kind ts := by
  have hpassed : (t :: ts).take ((t :: ts).length - (t :: ts).length) = [] := by
    rw [Nat.sub_self, List.take_zero]
  simp only [resume, hpassed, List.getLast?_nil]

/-- After a statement has failed with `rest` ahead, parsing goes on behind the next token, or right
before it if it is a word that only a statement starts with. -/
theorem resume_cases {taken : List Token} (rest : List Token) (h : Halted taken) :
    resume (taken ++ rest) rest = [] ∨
      (∃ t ts, rest = t :: ts ∧ resume (taken ++ rest) rest <:+ ts) ∨
      ∃ t ts, rest = t :: ts ∧ resume (taken ++ rest) rest = rest ∧ taken ≠ [] ∧
        opensStatement t.kind = true := by
  cases rest with
  | nil => exact .inl rfl
  | cons t ts =>
    refine .inr ?_
    cases hlast : taken.getLast? with
    | none =>
      obtain rfl := List.getLast?_eq_none_iff.mp hlast
      refine .inl ⟨t, ts, rfl, ?_⟩
      rw [List.nil_append, resume_of_nothing]
      exact skip_suffix _ _ _ ts
    | some before =>
      rw [resume_of_taken hlast]
      rcases skip_cases t.line (openBraces taken) before.kind t ts with hskip | ⟨hskip, hle, hb⟩
      · exact .inl ⟨t, ts, rfl, hskip⟩
      · refine .inr ⟨t, ts, rfl, hskip, ?_, ?_⟩
        · rintro rfl
          cases hlast
        · -- The token is on its own line, and no semicolon is in front of it.
          have hsemicolon : before.kind ≠ .semicolon := by
            rcases h with h | ⟨_, h⟩
            · omega
            · exact h before hlast
          simpa [isBoundary, hsemicolon] using hb

/-! ## Statements that fail -/

section

variable {ts blamed rest : List Token} {fault : SyntaxFault}

theorem taken_of_error (h : statement ts = .error fault blamed rest) :
    fault.IsGrammatical ∧ ∃ before between,
      ts = before ++ between ++ rest ∧ blamed = between ++ rest ∧ Halted (before ++ between) := by
  have htakes : Parser.TakesStatement ts (statement ts) := Parser.takesStatement_statement
  rw [h] at htakes
  exact htakes

theorem resume_suffix (h : statement ts = .error fault blamed rest) : resume ts rest <:+ ts := by
  obtain ⟨_, before, between, rfl, _, hhalted⟩ := taken_of_error h
  have hrest : rest <:+ before ++ between ++ rest := List.suffix_append _ _
  rcases resume_cases rest hhalted with hnil | ⟨t, us, rfl, hsuffix⟩ | ⟨t, us, _, hsame, _, _⟩
  · rw [hnil]
    exact List.nil_suffix
  · exact (hsuffix.trans (List.suffix_cons t us)).trans hrest
  · rw [hsame]
    exact hrest

/-- Every failed statement is passed by at least one token. -/
theorem length_resume_lt (h : statement ts = .error fault blamed rest) (hne : ts ≠ []) :
    (resume ts rest).length < ts.length := by
  obtain ⟨_, before, between, rfl, _, hhalted⟩ := taken_of_error h
  rcases resume_cases rest hhalted with hnil | ⟨t, us, rfl, hsuffix⟩ | ⟨t, us, _, hsame, htaken, _⟩
  · rw [hnil]
    exact List.length_pos_iff.mpr hne
  · have hle := hsuffix.length_le
    rw [List.length_append, List.length_cons]
    omega
  · have hpos := List.length_pos_iff.mpr htaken
    rw [hsame, List.length_append]
    omega

theorem blamed_suffix (h : statement ts = .error fault blamed rest) : blamed <:+ ts := by
  obtain ⟨_, before, between, rfl, rfl, _⟩ := taken_of_error h
  rw [List.append_assoc]
  exact List.suffix_append before _

theorem rest_suffix {first : Stmt} (h : statement ts = .ok first rest) : rest <:+ ts := by
  have htakes : Parser.TakesStatement ts (statement ts) := Parser.takesStatement_statement
  rw [h] at htakes
  obtain ⟨taken, rfl, _⟩ := htakes
  exact List.suffix_append taken rest

/-- A word that only a statement starts with is not blamed for the failure of that statement. -/
theorem length_blamed_le_of_word {t : Token}
    (h : statement (t :: ts) = .error fault blamed rest) (ht : opensStatement t.kind = true) :
    blamed.length ≤ ts.length := by
  have htakes : Parser.TakesStatement ts (statement (t :: ts)) :=
    Parser.takesStatement_statement_word ht
  rw [h] at htakes
  obtain ⟨_, before, between, rfl, rfl, _⟩ := htakes
  simp only [List.length_append]
  omega

end

/-! ## Runs -/

/-- A run of the recovering parser from the tokens `ts` on, after `found` errors: the statements
read, the errors of those that were not, and the tokens that are left where it ends. -/
inductive Runs (s : TokenStream) (limit : Int) :
    (found : Nat) → (ts : List Token) → List Stmt → List SyntaxError → (last : List Token) → Prop
  | finish {found : Nat} : Runs s limit found [] [] [] []
  | read {found : Nat} {ts rest last : List Token} {first : Stmt} {statements : List Stmt}
      {failures : List SyntaxError} (hne : ts ≠ []) (h : statement ts = .ok first rest)
      (more : Runs s limit found rest statements failures last) :
      Runs s limit found ts (first :: statements) failures last
  | skip {found : Nat} {ts blamed rest last : List Token} {fault : SyntaxFault}
      {statements : List Stmt} {failures : List SyntaxError} (hne : ts ≠ [])
      (h : statement ts = .error fault blamed rest)
      (hgo : found + 1 < limit ∨ resume ts rest = [])
      (more : Runs s limit (found + 1) (resume ts rest) statements failures last) :
      Runs s limit found ts statements (s.errorAt fault blamed :: failures) last
  | giveUp {found : Nat} {ts blamed rest : List Token} {fault : SyntaxFault} (hne : ts ≠ [])
      (h : statement ts = .error fault blamed rest) (hlimit : limit ≤ found + 1)
      (hnext : resume ts rest ≠ []) :
      Runs s limit found ts [] [s.errorAt fault blamed] (resume ts rest)

/-- What is reported where a run ends: nothing at the end of the script, and elsewhere that there
are too many errors. -/
def closing (s : TokenStream) (limit : Int) (last : List Token) : List SyntaxError :=
  if last = [] then [] else [s.errorAt (.tooManyErrors limit) last]

variable {s : TokenStream} {limit : Int} {found : Nat} {ts last : List Token}
  {statements : List Stmt} {failures : List SyntaxError}

/-- Parsing with recovery follows a run to its end. -/
theorem collect_of_runs (h : Runs s limit found ts statements failures last) {n : Nat}
    (hn : ts.length ≤ n) :
    collect s limit n found ts = ⟨statements, failures ++ closing s limit last⟩ := by
  induction h generalizing n with
  | finish => cases n <;> rfl
  | @read found ts rest last first statements failures hne h more ih =>
    obtain ⟨t, us, rfl⟩ := List.exists_cons_of_ne_nil hne
    obtain ⟨n, rfl⟩ : ∃ n', n = n' + 1 := ⟨n - 1, by rw [List.length_cons] at hn; omega⟩
    have hlength := Parser.length_lt_of_statement h
    rw [collect_of_ok h, ih (by omega)]
  | @skip found ts blamed rest last fault statements failures hne h hgo more ih =>
    obtain ⟨t, us, rfl⟩ := List.exists_cons_of_ne_nil hne
    obtain ⟨n, rfl⟩ : ∃ n', n = n' + 1 := ⟨n - 1, by rw [List.length_cons] at hn; omega⟩
    have hlength := length_resume_lt h hne
    have hgo : ¬ (limit ≤ found + 1 ∧ resume (t :: us) rest ≠ []) := by
      rintro ⟨hle, hnext⟩
      rcases hgo with hgo | hnil
      · omega
      · exact hnext hnil
    simp only [collect, h, if_neg hgo, ih (Nat.le_of_lt_succ (Nat.lt_of_lt_of_le hlength hn))]
    rfl
  | @giveUp found ts blamed rest fault hne h hlimit hnext =>
    obtain ⟨t, us, rfl⟩ := List.exists_cons_of_ne_nil hne
    obtain ⟨n, rfl⟩ : ∃ n', n = n' + 1 := ⟨n - 1, by rw [List.length_cons] at hn; omega⟩
    simp only [collect, h, if_pos (And.intro hlimit hnext), closing, if_neg hnext]
    rfl

/-- Every script has a run. -/
theorem exists_runs {n : Nat} (hn : ts.length ≤ n) :
    ∃ statements failures last, Runs s limit found ts statements failures last ∧
      collect s limit n found ts = ⟨statements, failures ++ closing s limit last⟩ := by
  have hruns : ∃ statements failures last, Runs s limit found ts statements failures last := by
    induction n generalizing found ts with
    | zero =>
      obtain rfl : ts = [] := List.length_eq_zero_iff.mp (Nat.le_zero.mp hn)
      exact ⟨[], [], [], .finish⟩
    | succ n ih =>
      by_cases hne : ts = []
      · subst hne
        exact ⟨[], [], [], .finish⟩
      cases h : statement ts with
      | ok first rest =>
        have hlength := Parser.length_lt_of_statement h
        obtain ⟨statements, failures, last, hruns⟩ := @ih found rest (by omega)
        exact ⟨first :: statements, failures, last, .read hne h hruns⟩
      | error fault blamed rest =>
        have hlength := length_resume_lt h hne
        obtain ⟨statements, failures, last, hruns⟩ := @ih (found + 1) (resume ts rest) (by omega)
        -- At the limit the parser gives up only if it would have to go on.
        by_cases hnext : resume ts rest = []
        · exact ⟨statements, _, last, .skip hne h (.inr hnext) hruns⟩
        · by_cases hlimit : limit ≤ found + 1
          · exact ⟨[], _, _, .giveUp hne h hlimit hnext⟩
          · exact ⟨statements, _, last, .skip hne h (.inl (Int.not_le.mp hlimit)) hruns⟩
  obtain ⟨statements, failures, last, hruns⟩ := hruns
  exact ⟨statements, failures, last, hruns, collect_of_runs hruns hn⟩

namespace Runs

theorem length_le (h : Runs s limit found ts statements failures last) :
    statements.length + failures.length ≤ ts.length := by
  induction h with
  | finish => exact Nat.le_refl 0
  | read hne h more ih =>
    have hlength := Parser.length_lt_of_statement h
    rw [List.length_cons]
    omega
  | skip hne h hgo more ih =>
    have hlength := length_resume_lt h hne
    rw [List.length_cons]
    omega
  | giveUp hne h hlimit hnext =>
    have hpos := List.length_pos_iff.mpr hne
    simp only [List.length_nil, List.length_singleton]
    omega

/-- Nothing is left to fail at the end of a script. -/
theorem failures_of_nil (h : Runs s limit found [] statements failures last) : failures = [] := by
  cases h with
  | finish => rfl
  | read hne => exact absurd rfl hne
  | skip hne => exact absurd rfl hne
  | giveUp hne => exact absurd rfl hne

theorem length_failures_le (h : Runs s limit found ts statements failures last) :
    (failures.length : Int) ≤ max 1 (limit - found) := by
  induction h with
  | finish =>
    rw [List.length_nil]
    omega
  | read hne h more ih => exact ih
  | skip hne h hgo more ih =>
    rw [List.length_cons]
    rcases hgo with hgo | hnext
    · omega
    · rw [hnext] at more
      rw [more.failures_of_nil]
      simp only [List.length_nil]
      omega
  | giveUp hne h hlimit hnext =>
    rw [List.length_singleton]
    omega

theorem grammatical (h : Runs s limit found ts statements failures last) :
    ∀ e ∈ failures, e.fault.IsGrammatical := by
  induction h with
  | finish => exact List.forall_mem_nil _
  | read hne h more ih => exact ih
  | skip hne h hgo more ih => exact List.forall_mem_cons.mpr ⟨(taken_of_error h).1, ih⟩
  | giveUp hne h hlimit hnext => exact List.forall_mem_singleton.mpr (taken_of_error h).1

/-! ### Blamed tokens

A place in the script is told by the tokens from there on, so a later place has fewer of them. -/

theorem index_errorAt {fault : SyntaxFault} {blamed : List Token} :
    (s.errorAt fault blamed).index = s.tokens.length - blamed.length := rfl

/-- No token in front of a run is blamed in it. -/
theorem le_index (h : Runs s limit found ts statements failures last) :
    ∀ e ∈ failures, s.tokens.length - ts.length ≤ e.index := by
  induction h with
  | finish => exact List.forall_mem_nil _
  | read hne h more ih =>
    intro e he
    have hlength := Parser.length_lt_of_statement h
    have hle := ih e he
    omega
  | skip hne h hgo more ih =>
    have hblamed := (blamed_suffix h).length_le
    have hlength := length_resume_lt h hne
    refine List.forall_mem_cons.mpr ⟨?_, fun e he => ?_⟩
    · rw [index_errorAt]
      omega
    · have hle := ih e he
      omega
  | giveUp hne h hlimit hnext =>
    have hblamed := (blamed_suffix h).length_le
    refine List.forall_mem_singleton.mpr ?_
    rw [index_errorAt]
    omega

/-- A word that only a statement starts with is not blamed in a run that starts at it. -/
theorem lt_index_of_word {t : Token}
    (h : Runs s limit found (t :: ts) statements failures last) (hts : t :: ts <:+ s.tokens)
    (ht : opensStatement t.kind = true) :
    ∀ e ∈ failures, s.tokens.length - (t :: ts).length < e.index := by
  have hle := hts.length_le
  rw [List.length_cons] at hle ⊢
  cases h with
  | read hne h more =>
    intro e he
    have hlength := Parser.length_lt_of_statement h
    have hindex := more.le_index e he
    rw [List.length_cons] at hlength
    omega
  | skip hne h hgo more =>
    have hblamed := length_blamed_le_of_word h ht
    have hlength := length_resume_lt h hne
    rw [List.length_cons] at hlength
    refine List.forall_mem_cons.mpr ⟨?_, fun e he => ?_⟩
    · rw [index_errorAt]
      omega
    · have hindex := more.le_index e he
      omega
  | giveUp hne h hlimit hnext =>
    have hblamed := length_blamed_le_of_word h ht
    refine List.forall_mem_singleton.mpr ?_
    rw [index_errorAt]
    omega

/-- What is blamed after a failed statement comes after the token blamed for that failure. -/
theorem blamed_lt_index {blamed rest : List Token} {fault : SyntaxFault}
    (hts : ts <:+ s.tokens) (h : statement ts = .error fault blamed rest)
    (hruns : Runs s limit found (resume ts rest) statements failures last) :
    ∀ e ∈ failures, s.tokens.length - blamed.length < e.index := by
  intro e he
  have hsuffix : resume ts rest <:+ s.tokens := (resume_suffix h).trans hts
  obtain ⟨_, before, between, rfl, rfl, hhalted⟩ := taken_of_error h
  have hle := hts.length_le
  simp only [List.length_append] at hle ⊢
  rcases resume_cases rest hhalted with hnil | ⟨t, us, rfl, hnext⟩ | ⟨t, us, rfl, hsame, _, ht⟩
  · rw [hnil] at hruns
    rw [hruns.failures_of_nil] at he
    cases he
  · have hindex := hruns.le_index e he
    have hlength := hnext.length_le
    rw [List.length_cons] at hle ⊢
    omega
  · rw [hsame] at hruns hsuffix
    have hindex := hruns.lt_index_of_word hsuffix ht e he
    omega

theorem pairwise_index (h : Runs s limit found ts statements failures last)
    (hts : ts <:+ s.tokens) : failures.Pairwise (·.index < ·.index) := by
  induction h with
  | finish => exact .nil
  | read hne h more ih => exact ih ((rest_suffix h).trans hts)
  | skip hne h hgo more ih =>
    refine List.pairwise_cons.mpr ⟨fun e he => ?_, ih ((resume_suffix h).trans hts)⟩
    rw [index_errorAt]
    exact more.blamed_lt_index hts h e he
  | giveUp hne h hlimit hnext => exact List.pairwise_singleton _ _

theorem token_at_index (h : Runs s limit found ts statements failures last)
    (hts : ts <:+ s.tokens) : ∀ e ∈ failures, (s.tokens ++ [s.stop])[e.index]? = some e.token := by
  induction h with
  | finish => exact List.forall_mem_nil _
  | read hne h more ih => exact ih ((rest_suffix h).trans hts)
  | skip hne h hgo more ih =>
    exact List.forall_mem_cons.mpr
      ⟨s.token_errorAt ((blamed_suffix h).trans hts), ih ((resume_suffix h).trans hts)⟩
  | giveUp hne h hlimit hnext =>
    exact List.forall_mem_singleton.mpr (s.token_errorAt ((blamed_suffix h).trans hts))

end Runs

/-! ## Whole scripts -/

theorem parsing_of_isGrammatical {fault : SyntaxFault} (h : fault.IsGrammatical) :
    Diagnostic.codeOf fault = .parsing ∧ fault ≠ .tooDeep := by
  cases fault with
  | expected what => exact ⟨rfl, by simp⟩
  | notCallable => exact ⟨rfl, by simp⟩
  | tooManyErrors limit => exact absurd h id
  | tooDeep => exact absurd h id

theorem gaveUp_iff (h : Runs s limit found ts statements failures last) :
    (∃ e ∈ failures ++ closing s limit last, Diagnostic.codeOf e.fault = .tooManyErrors) ↔
      last ≠ [] := by
  constructor
  · rintro ⟨e, he, hcode⟩ rfl
    rw [closing, if_pos rfl, List.append_nil] at he
    rw [(parsing_of_isGrammatical (h.grammatical e he)).1] at hcode
    cases hcode
  · intro hlast
    refine ⟨s.errorAt (.tooManyErrors limit) last, List.mem_append_right _ ?_, rfl⟩
    rw [closing, if_neg hlast]
    exact List.mem_singleton_self _

/-- How the errors of a script are accounted for. The run reads it up to the tokens `last`, and
`failures` are the errors of the statements that could not be read. -/
structure Accounts (ts : List Token) (limit : Int) (outcome : Outcome)
    (failures : List SyntaxError) (last : List Token) : Prop where
  runs : Runs (.ofTokens ts) limit 0 (TokenStream.ofTokens ts).tokens outcome.statements
    failures last
  errors : outcome.errors = failures ++ closing (.ofTokens ts) limit last
  stopped : (∃ e ∈ outcome.errors, Diagnostic.codeOf e.fault = .tooManyErrors) ↔ last ≠ []
  parsing : ∀ e ∈ failures, Diagnostic.codeOf e.fault = .parsing ∧ e.fault ≠ .tooDeep
  blamed : ∀ e ∈ failures, (ts ++ [TokenStream.missingStop ts])[e.index]? = some e.token
  ordered : failures.Pairwise (·.index < ·.index)
  counted : outcome.statements.length + failures.length ≤ (ts.takeWhile (·.kind != .eof)).length
  limited : (failures.length : Int) ≤ max 1 limit

end Recovery

/-- Parsing with recovery ends. Each of its errors blames a later token than the one before,
statements and errors together are no more than the tokens, and errors no more than the limit. It
gives up only once, at the end, if there are tokens left. Each error is one diagnostic and one line
of output. -/
theorem parseThrough_accounts (limit : Option Int) (file : String) (ts : List Token) :
    ∃ failures last,
      Recovery.Accounts ts (limit.getD 100) (Script.parseThrough limit file ts).result failures
        last ∧
      (Script.parseThrough limit file ts).diagnostics =
        (failures ++ Recovery.closing (.ofTokens ts) (limit.getD 100) last).map .ofSyntaxError ∧
      (Script.parseThrough limit file ts).lines =
        (failures ++ Recovery.closing (.ofTokens ts) (limit.getD 100) last).map
          SyntaxError.report := by
  obtain ⟨statements, failures, last, hruns, hcollect⟩ :=
    @Recovery.exists_runs (.ofTokens ts) (limit.getD 100) 0 (TokenStream.ofTokens ts).tokens _
      (Nat.le_refl _)
  have hresult : (Script.parseThrough limit file ts).result =
      ⟨statements, failures ++ Recovery.closing (.ofTokens ts) (limit.getD 100) last⟩ := hcollect
  have hnotices : (Script.parseThrough limit file ts).notices =
      (failures ++ Recovery.closing (.ofTokens ts) (limit.getD 100) last).map
        (.syntaxError file) := by
    have herrors := congrArg Recovery.Outcome.errors hresult
    exact congrArg (List.map (Notice.syntaxError file)) herrors
  have hsuffix : (TokenStream.ofTokens ts).tokens <:+ (TokenStream.ofTokens ts).tokens :=
    List.suffix_refl _
  refine ⟨failures, last, ?_, ?_, ?_⟩
  · rw [hresult]
    exact {
      runs := hruns
      errors := rfl
      stopped := Recovery.gaveUp_iff hruns
      parsing := fun e he => Recovery.parsing_of_isGrammatical (hruns.grammatical e he)
      blamed := fun e he =>
        TokenStream.getElem?_of_stream (hruns.token_at_index hsuffix e he)
      ordered := hruns.pairwise_index hsuffix
      counted := hruns.length_le
      limited := by simpa using hruns.length_failures_le }
  · rw [Reading.diagnostics, hnotices, List.filterMap_map]
    exact congrFun List.filterMap_eq_map _
  · rw [Reading.lines, hnotices, List.filterMap_map]
    exact congrFun List.filterMap_eq_map _

end RiftScript
