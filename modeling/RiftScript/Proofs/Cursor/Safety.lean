/-
The index is safe.

Whatever the list of tokens, reading a script, a single expression or a script with recovery by
index gives what the parsers give. No index on the way is outside the list or past the first end
token, and none is smaller than one before it. So nothing after the first end token matters.
-/
import RiftScript.Proofs.Cursor.Simulation
import RiftScript.Proofs.Parsing.Singles
import RiftScript.Proofs.Recovery.Progress

namespace RiftScript
namespace Cursor

variable {α : Type} {l : Layout} {pos : Nat} {ts : List Token}

/-! ## Whole scripts -/

theorem simulates_statements : ∀ {d n : Nat}, d < n →
    Simulates l (statements n) (Parser.statements d)
  | d, 0, h => absurd h (Nat.not_lt_zero d)
  | d, n + 1, h => by
    intro pos ts hahead
    refine (reaches_isAtEnd hahead).agrees ?_
    cases ts with
    | nil =>
      have hnil : Parser.statements d [] = .ok [] [] := by cases d <;> rfl
      rw [hnil]
      exact agrees_pure hahead
    | cons t us =>
      cases d with
      | zero => exact .tooDeep
      | succ d =>
        rw [Parser.statements_cons]
        refine (simulates_statement.bind fun first => ?_) _ _ hahead
        exact (simulates_statements (Nat.lt_of_succ_lt_succ h)).bind fun _ => simulates_pure

theorem simulates_program : Simulates l program Parser.program := by
  intro pos ts h
  have hlength := h.length_lt
  exact simulates_statements (by omega) pos ts h

theorem simulates_ending (value : Expr) : Simulates l (ending value) (Parser.ending value) := by
  rw [ending, Parser.ending]
  refine simulates_optional fun pos ts h => (reaches_isAtEnd h).agrees ?_
  cases ts with
  | nil => exact agrees_pure h
  | cons t us => exact agrees_fail h

theorem simulates_single : Simulates l single Parser.single := by
  intro pos ts h
  refine agrees_check h ?_ fun hne => ?_
  · rintro t us rfl hk
    rw [Parser.single_champion hk]
    exact (simulates_champion.bind fun c => simulates_ending (.champion c)) _ _ h
  · rw [Parser.single_expression hne]
    exact (simulates_expression.bind simulates_ending) _ _ h

/-! ## Skipping -/

theorem Layout.Ahead.append {front rest : List Token} (h : l.Ahead pos (front ++ rest)) :
    l.Ahead (pos + front.length) rest := by
  have hlength := h.length_eq
  rw [List.length_append] at hlength
  refine ⟨by omega, ?_⟩
  rw [← List.drop_drop, h.2, List.drop_left]

theorem reaches_atBoundary {line opened : Int} {before t : Token}
    (h : Reaches l previous pos before pos) :
    Reaches l (atBoundary line opened t) pos
      (decide (opened ≤ 0) && Recovery.isBoundary line before.kind t) pos := by
  rw [atBoundary]
  by_cases hopened : opened ≤ 0
  · rw [if_pos hopened, decide_eq_true hopened, Bool.true_and, Recovery.isBoundary]
    refine h.bind ?_
    cases before.kind == .semicolon
    · cases Recovery.opensStatement t.kind <;> exact reaches_pure
    · exact reaches_pure
  · rw [if_neg hopened, decide_eq_false hopened]
    exact reaches_pure

/-- The token before the index is the one that the list was told of. -/
theorem agrees_skip {line : Int} : ∀ {n : Nat} {opened : Int} {before : Token} {pos : Nat}
    {ts : List Token}, l.Ahead pos ts → Reaches l previous pos before pos → ts.length < n →
    Agrees l pos (skip line n opened l.tokens pos)
      (.ok () (Recovery.skip line opened before.kind ts))
  | 0, _, _, _, _, _, _, hn => absurd hn (Nat.not_lt_zero _)
  | n + 1, opened, before, pos, ts, h, hbefore, hn => by
    rw [skip]
    refine (reaches_isAtEnd h).agrees ?_
    cases ts with
    | nil => exact agrees_pure h
    | cons t us =>
      have hskip : ∀ opened', Agrees l (pos + 1) (skip line n opened' l.tokens (pos + 1))
          (.ok () (Recovery.skip line opened' t.kind us)) := fun opened' =>
        agrees_skip h.next (reaches_previous h) (Nat.lt_of_succ_lt_succ hn)
      have hpass : ¬ (opened ≤ 0 ∧ Recovery.isBoundary line before.kind t = true) →
          ¬ (t.kind = .rightBrace ∧ opened = 1) → Recovery.skip line opened before.kind (t :: us) =
            Recovery.skip line (opened + Recovery.braceChange t.kind) t.kind us := by
        intro hboundary hclosing
        rw [Recovery.skip, if_neg hboundary, if_neg hclosing]
      refine (reaches_current h).agrees ((reaches_atBoundary hbefore).agrees ?_)
      split
      · next hfound =>
        have hboundary : opened ≤ 0 ∧ Recovery.isBoundary line before.kind t = true := by
          simpa using hfound
        rw [Recovery.skip, if_pos hboundary]
        exact agrees_pure h
      · next hfound =>
        have hboundary : ¬ (opened ≤ 0 ∧ Recovery.isBoundary line before.kind t = true) := by
          simpa using hfound
        split
        · next hk =>
          have hk : t.kind = .leftBrace := hk
          have hchange : Recovery.braceChange t.kind = 1 := by rw [hk, Recovery.braceChange]
          have hclosing : ¬ (t.kind = .rightBrace ∧ opened = 1) := by
            rintro ⟨hright, -⟩
            cases hk.symm.trans hright
          rw [hpass hboundary hclosing, hchange]
          exact (reaches_advance h).agrees (hskip (opened + 1))
        · next hleft =>
          split
          · next hk =>
            have hk : t.kind = .rightBrace := hk
            refine (reaches_advance h).agrees ?_
            split
            · next hopened =>
              rw [Recovery.skip, if_neg hboundary, if_pos ⟨hk, by omega⟩]
              exact agrees_pure h.next
            · next hopened =>
              have hchange : Recovery.braceChange t.kind = -1 := by rw [hk, Recovery.braceChange]
              rw [hpass hboundary fun hclosing => hopened (by omega), hchange]
              exact hskip (opened - 1)
          · next hright =>
            have hchange : Recovery.braceChange t.kind = 0 :=
              Recovery.braceChange_of_braceless ⟨hleft, hright⟩
            rw [hpass hboundary fun hclosing => hright hclosing.1, hchange, Int.add_zero]
            exact (reaches_advance h).agrees (hskip opened)

theorem agrees_skipAhead {line opened : Int} {before : Token} (h : l.Ahead pos ts)
    (hbefore : Reaches l previous pos before pos) :
    Agrees l pos (skipAhead line opened l.tokens pos)
      (.ok () (Recovery.skip line opened before.kind ts)) :=
  agrees_skip h hbefore h.length_lt

theorem reaches_passedSince {start : Nat} {taken rest : List Token}
    (h : l.Ahead start (taken ++ rest)) :
    Reaches l (passedSince start) (start + taken.length) taken (start + taken.length) := by
  refine ⟨Run.safe_nil, congrArg Except.ok ?_, rfl⟩
  have hle := h.append.1
  rw [Layout.tokens, List.take_append_of_le_length hle, List.drop_take, h.2,
    Nat.add_sub_cancel_left, List.take_left]

/-- After a failed statement the index is where the list of tokens ahead goes on. -/
theorem agrees_synchronize {start : Nat} {taken rest : List Token}
    (h : l.Ahead start (taken ++ rest)) (hne : taken ++ rest ≠ []) :
    Agrees l (start + taken.length) (synchronize start l.tokens (start + taken.length))
      (.ok () (Recovery.resume (taken ++ rest) rest)) := by
  have hrest := h.append
  refine (reaches_passedSince h).agrees ((reaches_current hrest).agrees
    (reaches_position.agrees ?_))
  by_cases htaken : taken = []
  · -- Nothing was taken, so the first token is passed.
    subst htaken
    obtain ⟨t, us, rfl⟩ := List.exists_cons_of_ne_nil hne
    rw [List.nil_append, Recovery.resume_of_nothing, ← Int.zero_add (Recovery.braceChange t.kind)]
    split
    · refine (reaches_current hrest).agrees ((reaches_advance hrest).agrees ?_)
      exact agrees_skipAhead hrest.next (reaches_previous hrest)
    · next hpos => exact absurd (Nat.add_zero start) hpos
  · obtain ⟨init, before, rfl⟩ : ∃ init before, taken = init ++ [before] :=
      ⟨_, _, (List.dropLast_concat_getLast htaken).symm⟩
    have hlast : l.Ahead (start + init.length) (before :: rest) := by
      rw [List.append_assoc] at h
      exact h.append
    have hlength : start + (init ++ [before]).length = start + init.length + 1 := by
      rw [List.length_append, List.length_singleton, Nat.add_assoc]
    have hskip : ∀ line opened, Agrees l (start + (init ++ [before]).length)
        (skipAhead line opened l.tokens (start + (init ++ [before]).length))
        (.ok () (Recovery.skip line opened before.kind rest)) := by
      intro line opened
      rw [hlength]
      exact agrees_skipAhead hlast.next (reaches_previous hlast)
    split
    · next hpos => omega
    · cases rest with
      | nil => exact hskip _ _
      | cons t us =>
        rw [Recovery.resume_of_taken List.getLast?_concat]
        exact hskip _ _

/-! ## Recovery -/

/-- What a script is read as with recovery, without the indices of the errors. -/
def Collected.ofOutcome (o : Recovery.Outcome) : Collected :=
  (o.statements, o.errors.map fun e => (e.fault, e.token))

theorem reaches_attempt {m : Cursor α} {a : α} {rest : List Token}
    (h : Agrees l pos (m l.tokens pos) (.ok a rest)) :
    ∃ mid, Reaches l (attempt m) pos (.ok a) mid ∧ l.Ahead mid rest := by
  cases h with
  | ok safe outcome ahead =>
    have hrun : attempt m l.tokens pos =
        ⟨.ok (.ok a), (m l.tokens pos).pos, (m l.tokens pos).trace⟩ := by
      rw [attempt, outcome]
    refine ⟨_, ⟨?_, ?_, rfl⟩, ?_⟩
    all_goals rw [hrun]
    · exact safe.withOutcome _
    · exact ahead

theorem reaches_attempt_error {m : Cursor α} {fault : SyntaxFault} {blamed rest : List Token}
    (h : Agrees l pos (m l.tokens pos) (.error fault blamed rest)) (hfault : fault.IsGrammatical) :
    ∃ mid, Reaches l (attempt m) pos (.error (fault, blamed.head?.getD l.stop)) mid ∧
      l.Ahead mid rest := by
  cases h with
  | error safe outcome ahead =>
    have hrun : attempt m l.tokens pos = ⟨.ok (.error (fault, blamed.head?.getD l.stop)),
        (m l.tokens pos).pos, (m l.tokens pos).trace⟩ := by
      rw [attempt, outcome]
    refine ⟨_, ⟨?_, ?_, rfl⟩, ?_⟩
    all_goals rw [hrun]
    · exact safe.withOutcome _
    · exact ahead
  | tooDeep => exact hfault.elim

section

variable {s : TokenStream} {limit : Int} {found : Nat} {last : List Token}

theorem reaches_givesUp (h : l.Ahead pos ts) :
    Reaches l (givesUp limit found) pos (decide (limit ≤ found) && !ts.isEmpty) pos := by
  rw [givesUp]
  by_cases hlimit : limit ≤ found
  · rw [if_pos hlimit, decide_eq_true hlimit, Bool.true_and]
    exact (reaches_isAtEnd h).bind reaches_pure
  · rw [if_neg hlimit, decide_eq_false hlimit]
    exact reaches_pure

/-- What has failed is noted, and the index goes where the list of tokens goes. -/
theorem agrees_recover {fault : SyntaxFault} {blamed rest : List Token} {next : Cursor Collected}
    {k : Except (SyntaxFault × Token) Stmt → Cursor Collected} {q : Parsed Collected}
    (h : l.Ahead pos ts) (hne : ts ≠ [])
    (hstatement : Parser.statement ts = .error fault blamed rest)
    (hk : k (.error (fault, blamed.head?.getD l.stop)) = do synchronize pos; next)
    (hnext : ∀ mid, l.Ahead mid (Recovery.resume ts rest) → Agrees l mid (next l.tokens mid) q) :
    Agrees l pos ((attempt statement >>= k) l.tokens pos) q := by
  obtain ⟨hfault, before, between, rfl, -, -⟩ := Recovery.taken_of_error hstatement
  have hagrees := simulates_statement _ _ h
  rw [hstatement] at hagrees
  obtain ⟨mid, hreach, hmid⟩ := reaches_attempt_error hagrees hfault
  obtain rfl : mid = pos + (before ++ between).length := by
    have hlength := h.length_eq
    have hlength' := hmid.length_eq
    rw [List.length_append] at hlength
    omega
  refine hreach.agrees ?_
  rw [hk]
  refine agrees_bind (agrees_synchronize h hne) (fun hok hahead => ?_) nofun
  cases hok
  exact hnext _ hahead

/-- Reading on after errors follows the run of the recovering parser. -/
theorem agrees_collect {statements : List Stmt} {failures : List SyntaxError} {n : Nat}
    (h : Recovery.Runs s limit found ts statements failures last) (hstop : s.stop = l.stop)
    (hahead : l.Ahead pos ts) (hn : ts.length < n) :
    Agrees l pos (collect limit n found l.tokens pos)
      (.ok (Collected.ofOutcome ⟨statements, failures ++ Recovery.closing s limit last⟩) last) := by
  obtain ⟨n, rfl⟩ := Nat.exists_eq_add_one_of_ne_zero (Nat.ne_of_gt (Nat.zero_lt_of_lt hn))
  induction h generalizing n pos with
  | finish => exact (reaches_isAtEnd hahead).agrees (agrees_pure hahead)
  | @read found ts rest last first statements failures hne hstatement more ih =>
    obtain ⟨t, us, rfl⟩ := List.exists_cons_of_ne_nil hne
    have hlength := Parser.length_lt_of_statement hstatement
    refine (reaches_isAtEnd hahead).agrees (reaches_position.agrees ?_)
    have hagrees := simulates_statement _ _ hahead
    rw [hstatement] at hagrees
    obtain ⟨mid, hreach, hmid⟩ := reaches_attempt hagrees
    obtain ⟨n, rfl⟩ : ∃ n', n = n' + 1 := ⟨n - 1, by omega⟩
    refine hreach.agrees (agrees_bind (ih hmid n (by omega)) (fun hok hlast => ?_) nofun)
    cases hok
    exact agrees_pure hlast
  | @skip found ts blamed rest last fault statements failures hne hstatement hgo more ih =>
    obtain ⟨t, us, rfl⟩ := List.exists_cons_of_ne_nil hne
    have hlength := Recovery.length_resume_lt hstatement hne
    refine (reaches_isAtEnd hahead).agrees (reaches_position.agrees ?_)
    refine agrees_recover hahead hne hstatement rfl fun mid hmid => ?_
    refine (reaches_givesUp hmid).agrees ?_
    obtain ⟨n, rfl⟩ : ∃ n', n = n' + 1 := ⟨n - 1, by omega⟩
    split
    · next hstopped =>
      simp only [Bool.and_eq_true, decide_eq_true_eq, Bool.not_eq_true', List.isEmpty_eq_false_iff]
        at hstopped
      obtain hgo | hnil := hgo
      · omega
      · exact absurd hnil hstopped.2
    · refine agrees_bind (ih hmid n (by omega)) (fun hok hlast => ?_) nofun
      cases hok
      rw [← hstop]
      exact agrees_pure hlast
  | @giveUp found ts blamed rest fault hne hstatement hlimit hnext =>
    obtain ⟨t, us, rfl⟩ := List.exists_cons_of_ne_nil hne
    refine (reaches_isAtEnd hahead).agrees (reaches_position.agrees ?_)
    refine agrees_recover hahead hne hstatement rfl fun mid hmid => ?_
    refine (reaches_givesUp hmid).agrees ?_
    split
    · refine (reaches_current hmid).agrees ?_
      rw [Recovery.closing, if_neg hnext, ← hstop]
      exact agrees_pure hmid
    · next hstopped =>
      refine absurd ?_ hstopped
      rw [decide_eq_true (by omega), List.isEmpty_eq_false_iff.mpr hnext]
      rfl

end

/-! ## Every list of tokens -/

/-- The index of the first end token. -/
def stopIndex (tokens : List Token) : Nat :=
  tokens.findIdx (·.kind == .eof)

/-- A run that ends, with every index on the way inside the list and not past the first end token,
none smaller than one before it, and at least one wherever the token before it is looked at. What
was read as a statement or an expression took at least one token. -/
structure Guarded (tokens : List Token) (r : Run α) : Prop where
  inside : ∀ e ∈ r.trace, e.pos < tokens.length
  upToStop : ∀ e ∈ r.trace, e.pos ≤ stopIndex tokens
  stopsThere : r.pos ≤ stopIndex tokens
  ordered : r.trace.Pairwise fun e f => e.pos ≤ f.pos
  behindFirst : ∀ e ∈ r.trace, e.act = .previous → 1 ≤ e.pos
  takes : ∀ e ∈ r.trace, ∀ start, e.act = .parsed start → start < e.pos
  neverOutside : r.outcome ≠ .error .outOfRange
  ends : r.outcome ≠ .error .exhausted

def Failure.ofError (e : SyntaxError) : Failure :=
  .refused e.fault e.token

theorem stopIndex_tokens (l : Layout) : stopIndex l.tokens = l.front.length := by
  have hfront : l.front.findIdx (·.kind == .eof) = l.front.length :=
    List.findIdx_eq_length.mpr fun t ht => beq_eq_false_iff_ne.mpr (l.kind_front t ht)
  have hstop : (l.stop :: l.more).findIdx (·.kind == .eof) = 0 := by
    rw [List.findIdx_cons, beq_iff_eq.mpr l.kind_stop]
    rfl
  rw [stopIndex, Layout.tokens, List.findIdx_append, hfront, if_neg (Nat.lt_irrefl _), hstop,
    Nat.zero_add]

/-- The outcome of a run that agrees with a parser. -/
def outcomeOf (l : Layout) : Parsed α → Except Failure α
  | .ok a _ => .ok a
  | .error fault blamed _ => .error (.refused fault (blamed.head?.getD l.stop))

theorem Agrees.safe {r : Run α} {q : Parsed α} (h : Agrees l 0 r q)
    (hq : ∀ {fault blamed rest}, q = .error fault blamed rest → fault.IsGrammatical) :
    r.Safe 0 ∧ r.pos ≤ l.front.length ∧ r.outcome = outcomeOf l q := by
  cases h with
  | ok safe outcome ahead => exact ⟨safe, ahead.1, outcome⟩
  | error safe outcome ahead => exact ⟨safe, ahead.1, outcome⟩
  | tooDeep => exact (hq rfl).elim

theorem Agrees.guarded {r : Run α} {q : Parsed α} (h : Agrees l 0 r q)
    (hq : ∀ {fault blamed rest}, q = .error fault blamed rest → fault.IsGrammatical) :
    Guarded l.tokens r := by
  obtain ⟨hsafe, hpos, houtcome⟩ := h.safe hq
  have hle : ∀ e ∈ r.trace, e.pos ≤ l.front.length := fun e he =>
    Nat.le_trans (hsafe.between e he).2 hpos
  constructor
  case inside =>
    intro e he
    have hle := hle e he
    rw [Layout.tokens, List.length_append, List.length_cons]
    omega
  case upToStop =>
    rw [stopIndex_tokens]
    exact hle
  case stopsThere =>
    rw [stopIndex_tokens]
    exact hpos
  case ordered => exact hsafe.ordered
  case behindFirst =>
    intro e he hact
    have hsound := hsafe.sound e he
    rwa [Event.Sound, hact] at hsound
  case takes =>
    intro e he start hact
    have hsound := hsafe.sound e he
    rwa [Event.Sound, hact] at hsound
  case neverOutside =>
    rw [houtcome]
    cases q <;> exact fun h => by cases h
  case ends =>
    rw [houtcome]
    cases q <;> exact fun h => by cases h

theorem exists_layout (ts : List Token) :
    ∃ l : Layout, l.tokens = TokenStream.closed ts ∧ l.front = (TokenStream.ofTokens ts).tokens ∧
      l.stop = (TokenStream.ofTokens ts).stop := by
  obtain ⟨hstop, more, hclosed⟩ := TokenStream.exists_closed_eq ts
  exact ⟨⟨_, _, more, fun _ => TokenStream.kind_of_mem_tokens, hstop⟩, hclosed.symm, rfl, rfl⟩

theorem Layout.ahead_zero (l : Layout) : l.Ahead 0 l.front :=
  ⟨Nat.zero_le _, rfl⟩

/-- A reader that does what a parser does is safe on every list and gives what the parser gives. -/
theorem guarded_run {m : Cursor α} {p : Parser α} (h : ∀ l, Simulates l m p)
    (hp : p.FailsByGrammar) (ts : List Token) :
    Guarded (TokenStream.closed ts) (run m ts) ∧
      (run m ts).outcome = ((TokenStream.ofTokens ts).parse p).mapError Failure.ofError := by
  obtain ⟨l, htokens, hfront, hstop⟩ := exists_layout ts
  have hagrees := h l 0 l.front l.ahead_zero
  have houtcome : outcomeOf l (p l.front) =
      ((TokenStream.ofTokens ts).parse p).mapError Failure.ofError := by
    rw [TokenStream.parse, ← hfront]
    cases p l.front with
    | ok a rest => rfl
    | error fault blamed rest =>
      rw [outcomeOf, hstop]
      rfl
  rw [run, ← htokens, ← houtcome]
  exact ⟨hagrees.guarded hp, (hagrees.safe hp).2.2⟩

theorem guarded_recovering (ts : List Token) (limit : Option Int) :
    Guarded (TokenStream.closed ts) (run (recovering limit) ts) ∧
      (run (recovering limit) ts).outcome =
        .ok (Collected.ofOutcome (parseRecovering ts limit)) := by
  obtain ⟨l, htokens, hfront, hstop⟩ := exists_layout ts
  obtain ⟨statements, failures, last, hruns, hcollect⟩ :=
    @Recovery.exists_runs (TokenStream.ofTokens ts) (limit.getD Recovery.defaultLimit) 0
      (TokenStream.ofTokens ts).tokens _ (Nat.le_refl _)
  have hagrees : Agrees l 0 (recovering limit l.tokens 0) _ :=
    agrees_collect hruns hstop.symm (hfront ▸ l.ahead_zero) (hfront ▸ l.ahead_zero.length_lt)
  rw [run, ← htokens, parseRecovering, hcollect]
  exact ⟨hagrees.guarded nofun, (hagrees.safe nofun).2.2⟩

theorem ofTokens_of_take {ts us : List Token}
    (h : (TokenStream.closed us).take (stopIndex (TokenStream.closed ts) + 1) =
      (TokenStream.closed ts).take (stopIndex (TokenStream.closed ts) + 1)) :
    TokenStream.ofTokens us = TokenStream.ofTokens ts := by
  obtain ⟨l, htokens, hfront, hstop⟩ := exists_layout ts
  rw [← htokens, stopIndex_tokens, htokens, hfront] at h
  obtain ⟨common, last, last', hts, hus, hlength, hhead, hsame⟩ :=
    TokenStream.AgreeUpTo.exists_common h (Nat.le_refl _)
  obtain rfl : last = [] := by
    rw [hts, List.length_append] at hlength
    exact List.length_eq_zero_iff.mp (by omega)
  obtain rfl : last' = [] := List.head?_eq_none_iff.mp hhead
  have htokens : (TokenStream.ofTokens us).tokens = (TokenStream.ofTokens ts).tokens := by
    rw [hts, hus]
  calc TokenStream.ofTokens us
    _ = ⟨(TokenStream.ofTokens us).tokens, (TokenStream.ofTokens us).stop⟩ := rfl
    _ = ⟨(TokenStream.ofTokens ts).tokens, (TokenStream.ofTokens ts).stop⟩ := by
      rw [htokens, hsame rfl]

/-- On every list of tokens, empty ones and ones with end tokens in any place included, the three
readers by index are safe, end, and give what the parsers give. What they give is decided by the
tokens up to the first end token. -/
theorem guarded_runs (ts : List Token) :
    (Guarded (TokenStream.closed ts) (run program ts) ∧
      (run program ts).outcome = (parseProgram ts).mapError Failure.ofError) ∧
    (Guarded (TokenStream.closed ts) (run single ts) ∧
      (run single ts).outcome = (parseExpression ts).mapError Failure.ofError) ∧
    (∀ limit, Guarded (TokenStream.closed ts) (run (recovering limit) ts) ∧
      (run (recovering limit) ts).outcome =
        .ok (Collected.ofOutcome (parseRecovering ts limit))) ∧
    ∀ us, (TokenStream.closed us).take (stopIndex (TokenStream.closed ts) + 1) =
        (TokenStream.closed ts).take (stopIndex (TokenStream.closed ts) + 1) →
      parseProgram us = parseProgram ts ∧ parseExpression us = parseExpression ts ∧
        ∀ limit, parseRecovering us limit = parseRecovering ts limit := by
  refine ⟨guarded_run (fun _ => simulates_program) Parser.failsByGrammar_program ts,
    guarded_run (fun _ => simulates_single) Parser.failsByGrammar_single ts,
    guarded_recovering ts, fun us h => ?_⟩
  have hsame := ofTokens_of_take h
  refine ⟨?_, ?_, fun limit => ?_⟩
  · rw [parseProgram, parseProgram, hsame]
  · rw [parseExpression, parseExpression, hsame]
  · rw [parseRecovering, parseRecovering, hsame]

/-- A call without its arguments, and the same with the arguments behind the end. -/
def cutOff : List Token × List Token :=
  let call := [⟨.identifier, "a", .nil, 1, 1, 0⟩, ⟨.leftParen, "(", .nil, 1, 2, 1⟩, default]
  (call, call ++ [⟨.rightParen, ")", .nil, 1, 3, 2⟩])

theorem guarded_runs_cut_call :
    (TokenStream.closed cutOff.2).take (stopIndex (TokenStream.closed cutOff.1) + 1) =
        (TokenStream.closed cutOff.1).take (stopIndex (TokenStream.closed cutOff.1) + 1) ∧
      parseProgram cutOff.1 = .error ⟨.expected .expression, default, 2⟩ ∧
      parseProgram cutOff.2 = .error ⟨.expected .expression, default, 2⟩ := by
  have hagree : (TokenStream.closed cutOff.2).take (stopIndex (TokenStream.closed cutOff.1) + 1) =
      (TokenStream.closed cutOff.1).take (stopIndex (TokenStream.closed cutOff.1) + 1) := rfl
  have herror : parseProgram cutOff.1 = .error ⟨.expected .expression, default, 2⟩ := rfl
  exact ⟨hagree, herror, ((guarded_runs cutOff.1).2.2.2 cutOff.2 hagree).1.trans herror⟩

end Cursor
end RiftScript
