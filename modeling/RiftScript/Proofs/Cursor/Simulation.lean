/-
The index follows the list.

At an index, the tokens ahead are those from there to the first end token. A reader by index gives
what the parser gives on the tokens ahead, and stops at the index where the tokens that the parser
leaves are ahead. On the way the index only grows and stays at or before the first end token, no
token before the first one is looked at, and whatever is read as a statement or an expression takes
at least one token. The fuel of the reader only has to be as large as the depth of the parser; where
the parser goes too deep nothing is said, but from the depth it starts with it never does.
-/
import RiftScript.Proofs.Cursor.Machine

namespace RiftScript
namespace Cursor

variable {α β γ δ : Type}

/-! ## Safe runs -/

/-- One looks back only from behind the first token, and something takes at least one token. -/
def Event.Sound (e : Event) : Prop :=
  match e.act with
  | .previous => 1 ≤ e.pos
  | .parsed start => start < e.pos
  | _ => True

/-- From the start on the index only grows. -/
structure Run.Safe (r : Run α) (start : Nat) : Prop where
  le : start ≤ r.pos
  between : ∀ e ∈ r.trace, start ≤ e.pos ∧ e.pos ≤ r.pos
  ordered : r.trace.Pairwise fun e f => e.pos ≤ f.pos
  sound : ∀ e ∈ r.trace, e.Sound

theorem Run.Safe.append {start : Nat} {r : Run α} {r' : Run β} (h : r.Safe start)
    (h' : r'.Safe r.pos) : (Run.mk r'.outcome r'.pos (r.trace ++ r'.trace)).Safe start where
  le := Nat.le_trans h.le h'.le
  between e he := by
    rcases List.mem_append.mp he with he | he
    · exact ⟨(h.between e he).1, Nat.le_trans (h.between e he).2 h'.le⟩
    · exact ⟨Nat.le_trans h.le (h'.between e he).1, (h'.between e he).2⟩
  ordered := List.pairwise_append.mpr ⟨h.ordered, h'.ordered, fun e he f hf =>
    Nat.le_trans (h.between e he).2 (h'.between f hf).1⟩
  sound e he := (List.mem_append.mp he).elim (h.sound e) (h'.sound e)

theorem Run.safe_nil {pos : Nat} {outcome : Except Failure α} :
    (Run.mk outcome pos []).Safe pos where
  le := Nat.le_refl pos
  between _ he := absurd he List.not_mem_nil
  ordered := .nil
  sound _ he := absurd he List.not_mem_nil

/-- Safety is about the way and not about what is given in the end. -/
theorem Run.Safe.withOutcome {start : Nat} {r : Run α} (h : r.Safe start)
    (outcome : Except Failure β) : (Run.mk outcome r.pos r.trace).Safe start :=
  ⟨h.le, h.between, h.ordered, h.sound⟩

/-! ## Lists with an end token -/

/-- A list of tokens around its first end token. -/
structure Layout where
  front : List Token
  stop : Token
  more : List Token
  kind_front : ∀ t ∈ front, t.kind ≠ .eof
  kind_stop : stop.kind = .eof

namespace Layout

def tokens (l : Layout) : List Token :=
  l.front ++ l.stop :: l.more

/-- The tokens from an index to the first end token. -/
def Ahead (l : Layout) (pos : Nat) (ts : List Token) : Prop :=
  pos ≤ l.front.length ∧ l.front.drop pos = ts

variable {l : Layout} {pos : Nat} {t : Token} {ts : List Token}

theorem Ahead.length_eq (h : l.Ahead pos ts) : pos + ts.length = l.front.length := by
  obtain ⟨hle, rfl⟩ := h
  rw [List.length_drop]
  omega

theorem Ahead.next (h : l.Ahead pos (t :: ts)) : l.Ahead (pos + 1) ts := by
  have hlength := h.length_eq
  rw [List.length_cons] at hlength
  refine ⟨by omega, ?_⟩
  rw [← List.tail_drop, h.2, List.tail_cons]

theorem Ahead.mem (h : l.Ahead pos ts) (ht : t ∈ ts) : t ∈ l.front :=
  List.mem_of_mem_drop (h.2 ▸ ht)

theorem Ahead.getElem? (h : l.Ahead pos ts) : l.tokens[pos]? = some (ts.head?.getD l.stop) := by
  have hlength := h.length_eq
  cases ts with
  | nil =>
    obtain rfl : pos = l.front.length := hlength
    rw [tokens, List.getElem?_append_right (Nat.le_refl _), Nat.sub_self]
    rfl
  | cons t ts =>
    rw [List.length_cons] at hlength
    rw [tokens, List.getElem?_append_left (by omega), ← List.head?_drop, h.2]
    rfl

theorem Ahead.length_lt (h : l.Ahead pos ts) : ts.length < l.tokens.length - pos := by
  have hlength := h.length_eq
  rw [tokens, List.length_append, List.length_cons]
  omega

end Layout

/-! ## Steps that succeed -/

/-- The reader gives a value and stops at an index, safely. -/
structure Reaches (l : Layout) (m : Cursor α) (pos : Nat) (a : α) (stop : Nat) : Prop where
  safe : (m l.tokens pos).Safe pos
  outcome : (m l.tokens pos).outcome = .ok a
  pos : (m l.tokens pos).pos = stop

section

variable {l : Layout} {m : Cursor α} {k : α → Cursor β} {pos mid stop : Nat} {a : α} {b : β}
  {t : Token} {ts : List Token}

theorem bind_of_reaches (h : Reaches l m pos a mid) :
    (m >>= k) l.tokens pos = ⟨(k a l.tokens mid).outcome, (k a l.tokens mid).pos,
      (m l.tokens pos).trace ++ (k a l.tokens mid).trace⟩ := by
  show ((m l.tokens pos).andThen fun a => k a l.tokens) = _
  rw [Run.andThen, h.outcome, h.pos]

theorem bind_of_error {failure : Failure} (h : (m l.tokens pos).outcome = .error failure) :
    (m >>= k) l.tokens pos =
      ⟨.error failure, (m l.tokens pos).pos, (m l.tokens pos).trace⟩ := by
  show ((m l.tokens pos).andThen fun a => k a l.tokens) = _
  rw [Run.andThen, h]

theorem Reaches.bind (h : Reaches l m pos a mid) (hk : Reaches l (k a) mid b stop) :
    Reaches l (m >>= k) pos b stop := by
  have hsafe := hk.safe
  rw [← h.pos] at hsafe
  refine ⟨?_, ?_, ?_⟩
  all_goals rw [bind_of_reaches h]
  · rw [← h.pos]
    exact h.safe.append hsafe
  · exact hk.outcome
  · exact hk.pos

theorem reaches_pure : Reaches l (Pure.pure a) pos a pos :=
  ⟨Run.safe_nil, rfl, rfl⟩

theorem reaches_position : Reaches l position pos pos pos :=
  ⟨Run.safe_nil, rfl, rfl⟩

theorem reaches_note {act : Act} (h : (Event.mk pos act).Sound) :
    Reaches l (note act) pos () pos where
  safe := {
    le := Nat.le_refl pos
    between := fun e he => by
      obtain rfl := List.mem_singleton.mp he
      exact ⟨Nat.le_refl _, Nat.le_refl _⟩
    ordered := List.pairwise_singleton _ _
    sound := fun e he => List.mem_singleton.mp he ▸ h }
  outcome := rfl
  pos := rfl

theorem reaches_forward : Reaches l forward pos () (pos + 1) where
  safe := {
    le := Nat.le_succ pos
    between := fun e he => by
      obtain rfl := List.mem_singleton.mp he
      exact ⟨Nat.le_succ _, Nat.le_refl _⟩
    ordered := List.pairwise_singleton _ _
    sound := fun e he => List.mem_singleton.mp he ▸ trivial }
  outcome := rfl
  pos := rfl

theorem reaches_current (h : l.Ahead pos ts) :
    Reaches l current pos (ts.head?.getD l.stop) pos := by
  have hread : Reaches l (do note .current; found l.tokens[pos]?) pos (ts.head?.getD l.stop)
      pos := by
    have hsound : (Event.mk pos .current).Sound := trivial
    rw [h.getElem?]
    exact (reaches_note hsound).bind reaches_pure
  exact ⟨hread.safe, hread.outcome, hread.pos⟩

theorem reaches_previous (h : l.Ahead pos (t :: ts)) :
    Reaches l previous (pos + 1) t (pos + 1) := by
  have hread : Reaches l (do note .previous; found l.tokens[pos]?) (pos + 1) t (pos + 1) := by
    have hsound : (Event.mk (pos + 1) .previous).Sound := Nat.le_add_left 1 pos
    rw [h.getElem?]
    exact (reaches_note hsound).bind reaches_pure
  exact ⟨hread.safe, hread.outcome, hread.pos⟩

theorem reaches_isAtEnd (h : l.Ahead pos ts) : Reaches l isAtEnd pos ts.isEmpty pos := by
  have hend : ((ts.head?.getD l.stop).kind == .eof) = ts.isEmpty := by
    cases ts with
    | nil => exact beq_iff_eq.mpr l.kind_stop
    | cons t ts => exact beq_eq_false_iff_ne.mpr (l.kind_front t (h.mem List.mem_cons_self))
  rw [← hend]
  exact (reaches_current h).bind reaches_pure

theorem reaches_check {kind : TokenKind} (h : l.Ahead pos (t :: ts)) :
    Reaches l (check kind) pos (t.kind == kind) pos :=
  (reaches_isAtEnd h).bind ((reaches_current h).bind reaches_pure)

theorem reaches_check_of_eq (h : l.Ahead pos (t :: ts)) :
    Reaches l (check t.kind) pos true pos := by
  rw [← beq_self_eq_true t.kind]
  exact reaches_check h

theorem reaches_check_of_ne {kind : TokenKind} (h : l.Ahead pos ts)
    (ht : ∀ t ∈ ts.head?, t.kind ≠ kind) : Reaches l (check kind) pos false pos := by
  cases ts with
  | nil => exact (reaches_isAtEnd h).bind reaches_pure
  | cons t ts =>
    rw [← beq_eq_false_iff_ne.mpr (ht t rfl)]
    exact reaches_check h

theorem reaches_advance (h : l.Ahead pos (t :: ts)) : Reaches l advance pos t (pos + 1) :=
  (reaches_isAtEnd h).bind (reaches_forward.bind (reaches_previous h))

theorem reaches_passAny {kinds : List TokenKind} (h : l.Ahead pos (t :: ts)) (ht : t.kind ∈ kinds) :
    Reaches l (passAny kinds) pos true (pos + 1) := by
  induction kinds with
  | nil => exact absurd ht List.not_mem_nil
  | cons kind kinds ih =>
    by_cases hk : t.kind = kind
    · subst hk
      exact (reaches_check_of_eq h).bind ((reaches_advance h).bind reaches_pure)
    · have hne : ∀ u ∈ (t :: ts).head?, u.kind ≠ kind := by
        rintro _ ⟨⟩
        exact hk
      exact (reaches_check_of_ne h hne).bind (ih ((List.mem_cons.mp ht).resolve_left hk))

theorem reaches_passAny_of_not_mem {kinds : List TokenKind} (h : l.Ahead pos ts)
    (ht : ∀ t ∈ ts.head?, t.kind ∉ kinds) : Reaches l (passAny kinds) pos false pos := by
  induction kinds with
  | nil => exact reaches_pure
  | cons kind kinds ih =>
    have hne : ∀ t ∈ ts.head?, t.kind ≠ kind := fun t hhead heq =>
      ht t hhead (heq ▸ List.mem_cons_self)
    refine (reaches_check_of_ne h hne).bind ?_
    exact ih fun t hhead hmem => ht t hhead (List.mem_cons_of_mem kind hmem)

end

/-! ## Agreement with the parsers -/

/-- A run from `start` ends as the parser does, which left the tokens that are then ahead, unless
the parser went too deep. -/
inductive Agrees (l : Layout) (start : Nat) (r : Run α) : Parsed α → Prop where
  | ok {a : α} {rest : List Token} (safe : r.Safe start) (outcome : r.outcome = .ok a)
      (ahead : l.Ahead r.pos rest) : Agrees l start r (.ok a rest)
  | error {fault : SyntaxFault} {blamed rest : List Token} (safe : r.Safe start)
      (outcome : r.outcome = .error (.refused fault (blamed.head?.getD l.stop)))
      (ahead : l.Ahead r.pos rest) : Agrees l start r (.error fault blamed rest)
  | tooDeep {blamed rest : List Token} : Agrees l start r (.error .tooDeep blamed rest)

/-- At every index the reader does what the parser does on the tokens ahead. -/
def Simulates (l : Layout) (m : Cursor α) (p : Parser α) : Prop :=
  ∀ pos ts, l.Ahead pos ts → Agrees l pos (m l.tokens pos) (p ts)

section

variable {l : Layout} {m : Cursor α} {p : Parser α} {k : α → Cursor β} {f : α → Parser β}
  {pos mid : Nat} {ts : List Token} {a : α} {q : Parsed β}

/-- What comes before the run that agrees may do anything that is safe. -/
theorem Reaches.agrees (h : Reaches l m pos a mid) (hk : Agrees l mid (k a l.tokens mid) q) :
    Agrees l pos ((m >>= k) l.tokens pos) q := by
  have hsafe : ∀ {r : Run β}, r.Safe mid →
      (Run.mk r.outcome r.pos ((m l.tokens pos).trace ++ r.trace)).Safe pos := fun hr =>
    h.safe.append (h.pos.symm ▸ hr)
  rw [bind_of_reaches h]
  cases hk with
  | ok safe outcome ahead => exact .ok (hsafe safe) outcome ahead
  | error safe outcome ahead => exact .error (hsafe safe) outcome ahead
  | tooDeep => exact .tooDeep

theorem agrees_pure (h : l.Ahead pos ts) : Agrees l pos ((Pure.pure a : Cursor α) l.tokens pos)
    (.ok a ts) :=
  .ok Run.safe_nil rfl h

theorem simulates_pure : Simulates l (Pure.pure a) (Pure.pure a) :=
  fun _ _ => agrees_pure

theorem simulates_tooDeep : Simulates l m (Parser.fail .tooDeep) :=
  fun _ _ _ => .tooDeep

/-- One reader and then another on what it left, against two parsers. -/
theorem agrees_bind {q : Parsed α} {q' : Parsed β} (h : Agrees l pos (m l.tokens pos) q)
    (hok : ∀ {a rest mid}, q = .ok a rest → l.Ahead mid rest → Agrees l mid (k a l.tokens mid) q')
    (herror : ∀ {fault blamed rest}, q = .error fault blamed rest →
      q' = .error fault blamed rest) : Agrees l pos ((m >>= k) l.tokens pos) q' := by
  cases h with
  | ok safe outcome ahead => exact Reaches.agrees ⟨safe, outcome, rfl⟩ (hok rfl ahead)
  | error safe outcome ahead =>
    rw [herror rfl, bind_of_error outcome]
    exact .error (safe.withOutcome _) rfl ahead
  | tooDeep =>
    rw [herror rfl]
    exact .tooDeep

theorem Simulates.bind (h : Simulates l m p) (hk : ∀ a, Simulates l (k a) (f a)) :
    Simulates l (m >>= k) (p >>= f) := by
  intro pos ts hahead
  refine agrees_bind (h pos ts hahead) (fun hok hmid => ?_) fun herror => ?_
  · rw [Parser.bind_of_ok hok]
    exact hk _ _ _ hmid
  · exact Parser.bind_eq_error.mpr (.inl herror)

/-- What is noted of a parser that takes a token is sound. -/
theorem simulates_spanned (h : Simulates l m p)
    (hp : ∀ {ts a rest}, p ts = .ok a rest → rest.length < ts.length) :
    Simulates l (spanned m) p := by
  intro pos ts hahead
  refine reaches_position.agrees (agrees_bind (h pos ts hahead) (@fun a rest mid hok hmid => ?_) id)
  have hlength := hahead.length_eq
  have hlength' := hmid.length_eq
  have hlt := hp hok
  have hsound : (Event.mk mid (.parsed pos)).Sound := by
    show pos < mid
    omega
  rw [hok]
  exact (reaches_note hsound).agrees (agrees_pure hmid)

theorem agrees_fail {fault : SyntaxFault} (h : l.Ahead pos ts) :
    Agrees l pos ((do fail fault (← current) : Cursor α) l.tokens pos) (.error fault ts ts) :=
  (reaches_current h).agrees (.error Run.safe_nil rfl h)

theorem head_cases (P : Token → Prop) (ts : List Token) :
    (∃ t us, ts = t :: us ∧ P t) ∨ ∀ t ∈ ts.head?, ¬ P t := by
  cases ts with
  | nil =>
    right
    rintro t ⟨⟩
  | cons t us =>
    by_cases ht : P t
    · exact .inl ⟨t, us, rfl, ht⟩
    · right
      rintro _ ⟨⟩
      exact ht

/-- The next token decides, and is not taken. -/
theorem agrees_check {kind : TokenKind} {yes no : Cursor β} (h : l.Ahead pos ts)
    (hyes : ∀ t us, ts = t :: us → t.kind = kind → Agrees l pos (yes l.tokens pos) q)
    (hno : (∀ t ∈ ts.head?, t.kind ≠ kind) → Agrees l pos (no l.tokens pos) q) :
    Agrees l pos ((do if ← check kind then yes else no : Cursor β) l.tokens pos) q := by
  obtain ⟨t, us, rfl, rfl⟩ | hne := head_cases (·.kind = kind) ts
  · exact (reaches_check_of_eq h).agrees (hyes t us rfl rfl)
  · exact (reaches_check_of_ne h hne).agrees (hno hne)

theorem Reaches.agrees_ok {q : List Token} (h : Reaches l m pos a mid) (hahead : l.Ahead mid q) :
    Agrees l pos (m l.tokens pos) (.ok a q) :=
  .ok h.safe h.outcome (h.pos.symm ▸ hahead)

theorem reaches_expect {t : Token} {what : Expected} (h : l.Ahead pos (t :: ts)) :
    Reaches l (expect t.kind what) pos t (pos + 1) :=
  (reaches_check_of_eq h).bind (reaches_advance h)

theorem expect_of_ne {kind : TokenKind} {what : Expected} (h : ∀ t ∈ ts.head?, t.kind ≠ kind) :
    Parser.expect kind what ts = .error (.expected what) ts ts := by
  cases ts with
  | nil => rfl
  | cons t ts => rw [Parser.expect, Parser.expectThat, if_neg (mt beq_iff_eq.mp (h t rfl))]

theorem simulates_expect {kind : TokenKind} {what : Expected} :
    Simulates l (expect kind what) (Parser.expect kind what) := by
  intro pos ts h
  refine agrees_check h ?_ fun hne => ?_
  · rintro t us rfl hk
    rw [Parser.expect_cons hk]
    exact (reaches_advance h).agrees_ok h.next
  · rw [expect_of_ne hne]
    exact agrees_fail h

/-- The next token decides, and is taken if it is of one of the kinds. -/
theorem agrees_passAny {kinds : List TokenKind} {yes no : Cursor β} (h : l.Ahead pos ts)
    (hyes : ∀ t us, ts = t :: us → t.kind ∈ kinds → Agrees l (pos + 1) (yes l.tokens (pos + 1)) q)
    (hno : (∀ t ∈ ts.head?, t.kind ∉ kinds) → Agrees l pos (no l.tokens pos) q) :
    Agrees l pos ((do if ← passAny kinds then yes else no : Cursor β) l.tokens pos) q := by
  obtain ⟨t, us, rfl, ht⟩ | hne := head_cases (·.kind ∈ kinds) ts
  · exact (reaches_passAny h ht).agrees (hyes t us rfl ht)
  · exact (reaches_passAny_of_not_mem h hne).agrees (hno hne)

theorem simulates_accept {kinds : List TokenKind} {test : TokenKind → Bool} {yes no : Cursor β}
    {f : Option Token → Parser β} (htest : ∀ k, test k = true ↔ k ∈ kinds)
    (hyes : ∀ pos t ts, l.Ahead pos (t :: ts) →
      Agrees l (pos + 1) (yes l.tokens (pos + 1)) (f (some t) ts))
    (hno : Simulates l no (f none)) :
    Simulates l (do if ← passAny kinds then yes else no) (Parser.accept test >>= f) := by
  intro pos ts h
  refine agrees_passAny h ?_ fun hhead => ?_
  · rintro t ts rfl ht
    rw [Parser.bind_of_ok (Parser.accept_eq_some.mpr ⟨rfl, (htest t.kind).mpr ht⟩)]
    exact hyes pos t ts h
  · have hnone : Parser.accept test ts = .ok none ts :=
      Parser.accept_eq_none.mpr ⟨rfl, fun t ht => by
        simpa using mt (htest t.kind).mp (hhead t ht)⟩
    rw [Parser.bind_of_ok hnone]
    exact hno pos ts h

theorem beq_iff_mem {kind : TokenKind} (k : TokenKind) : (k == kind) = true ↔ k ∈ [kind] := by
  rw [beq_iff_eq, List.mem_singleton]

/-- One kind of token is taken, and nothing of it is kept. -/
theorem simulates_accept_kind {kind : TokenKind} {yes no : Cursor β} {f : Option Token → Parser β}
    (hyes : ∀ t, Simulates l yes (f (some t))) (hno : Simulates l no (f none)) :
    Simulates l (do if ← passAny [kind] then yes else no) (Parser.accept (· == kind) >>= f) :=
  simulates_accept beq_iff_mem (fun _ t _ h => hyes t _ _ h.next) hno

/-- An operator is taken and looked at from behind. -/
theorem simulates_accept_token {kinds : List TokenKind} {test : TokenKind → Bool}
    {yes : Token → Cursor β} {no : Cursor β} {f : Option Token → Parser β}
    (htest : ∀ k, test k = true ↔ k ∈ kinds) (hyes : ∀ t, Simulates l (yes t) (f (some t)))
    (hno : Simulates l no (f none)) :
    Simulates l (do if ← passAny kinds then yes (← previous) else no)
      (Parser.accept test >>= f) :=
  simulates_accept htest (fun _ t _ h => (reaches_previous h).agrees (hyes t _ _ h.next)) hno

/-- A closing token is seen and then expected. -/
theorem simulates_closing {kind : TokenKind} {what : Expected} {yes no : Cursor β}
    {f : Option Token → Parser β} (hyes : ∀ {t}, Simulates l yes (f (some t)))
    (hno : Simulates l no (f none)) :
    Simulates l (do if ← check kind then let _ ← expect kind what; yes else no)
      (Parser.accept (· == kind) >>= f) := by
  intro pos ts h
  refine agrees_check h ?_ fun hne => ?_
  · rintro t us rfl rfl
    rw [Parser.bind_of_ok (Parser.accept_cons rfl)]
    exact (reaches_expect h).agrees (hyes _ _ h.next)
  · rw [Parser.bind_of_ok (Parser.accept_of_ne hne)]
    exact hno pos ts h

/-- A token may be there, and nothing of it is kept. -/
theorem simulates_optional {kind : TokenKind} {m : Cursor β} {p : Parser β} (h : Simulates l m p) :
    Simulates l (do let _ ← passAny [kind]; m) (Parser.accept (· == kind) >>= fun _ => p) := by
  intro pos ts hahead
  obtain ⟨t, us, rfl, rfl⟩ | hne := head_cases (·.kind = kind) ts
  · rw [Parser.bind_of_ok (Parser.accept_cons rfl)]
    exact (reaches_passAny hahead (List.mem_singleton_self _)).agrees (h _ _ hahead.next)
  · rw [Parser.bind_of_ok (Parser.accept_of_ne hne)]
    refine (reaches_passAny_of_not_mem hahead fun t ht => ?_).agrees (h _ _ hahead)
    exact mt List.mem_singleton.mp (hne t ht)

end

/-! ## Expressions -/

theorem expressionAt_unary (n : Nat) :
    expressionAt (n + 1) .unary = spanned (do
      if ← passAny [.notWord, .bang, .minus] then
        let operator ← previous
        return .unary operator (← expressionAt n .unary)
      else call n) := by
  rw [expressionAt]

theorem expressionAt_binary {level : Level} (h : level ≠ .unary) (n : Nat) :
    expressionAt (n + 1) level = spanned (do
      let left ← expressionAt n level.tighter
      operations n level left) := by
  rw [expressionAt]
  exact h

theorem length_lt_of_call {d : Nat} {ts rest : List Token} {e : Expr}
    (h : Parser.call d ts = .ok e rest) : rest.length < ts.length := by
  obtain ⟨ys, rfl, hyields, hwf, _⟩ := Parser.spelled_of_call h
  exact Parser.length_lt_of_opens (hyields.opens hwf)

/-- No other token starts an expression. -/
theorem primary_of_ne {l : Layout} {d : Nat} {ts : List Token}
    (htrue : ∀ t ∈ ts.head?, t.kind ∉ [.trueWord]) (hfalse : ∀ t ∈ ts.head?, t.kind ∉ [.falseWord])
    (hnil : ∀ t ∈ ts.head?, t.kind ∉ [.nilWord])
    (hliteral : ∀ t ∈ ts.head?, t.kind ∉ [.number, .string])
    (hname : ¬ (ts.head?.getD l.stop).kind.isName = true)
    (hparen : ∀ t ∈ ts.head?, t.kind ∉ [.leftParen]) :
    Parser.primary (d + 1) ts = .error (.expected .expression) ts ts := by
  cases ts with
  | nil => rfl
  | cons t us =>
    simp only [List.head?_cons, Option.mem_some_iff, forall_eq', List.mem_cons, List.not_mem_nil,
      or_false, not_or, Option.getD_some] at htrue hfalse hnil hliteral hname hparen
    simp only [Parser.primary]
    split <;> simp_all [TokenKind.isName, TokenKind.isGameWord]

section

variable {l : Layout}

mutual

/- The induction is on the depth of the parser. The fuel goes down with it, so it never falls short
before the depth does. -/

theorem simulates_expressionAt : ∀ {d n : Nat}, d ≤ n → ∀ level : Level,
    Simulates l (expressionAt n level) (Parser.expressionAt d level)
  | 0, _, _, _ => simulates_tooDeep
  | d + 1, 0, h, _ => absurd h (Nat.not_succ_le_zero d)
  | d + 1, n + 1, h, level => by
    have h : d ≤ n := Nat.le_of_succ_le_succ h
    by_cases hlevel : level = .unary
    · subst hlevel
      rw [expressionAt_unary]
      refine simulates_spanned ?_ Parser.length_lt_of_expressionAt
      rw [Parser.expressionAt_unary]
      refine simulates_accept_token (fun k => ?_) (fun operator => ?_) (simulates_call h)
      · simp [Parser.isUnaryOperator, or_assoc]
      · exact (simulates_expressionAt h .unary).bind fun _ => simulates_pure
    · rw [expressionAt_binary hlevel]
      refine simulates_spanned ?_ Parser.length_lt_of_expressionAt
      rw [Parser.expressionAt_binary hlevel]
      exact (simulates_expressionAt h level.tighter).bind (simulates_operations h level)

theorem simulates_operations : ∀ {d n : Nat}, d ≤ n → ∀ (level : Level) (left : Expr),
    Simulates l (operations n level left) (Parser.operations d level left)
  | 0, _, _, _, _ => simulates_tooDeep
  | d + 1, 0, h, _, _ => absurd h (Nat.not_succ_le_zero d)
  | d + 1, n + 1, h, level, left => by
    have h : d ≤ n := Nat.le_of_succ_le_succ h
    rw [operations, Parser.operations]
    refine simulates_accept_token (fun k => List.contains_iff_mem) (fun operator => ?_)
      simulates_pure
    refine (simulates_expressionAt h level.tighter).bind fun right => ?_
    exact simulates_operations h level (.binary left operator right)

theorem simulates_call : ∀ {d n : Nat}, d ≤ n → Simulates l (call n) (Parser.call d)
  | 0, _, _ => simulates_tooDeep
  | d + 1, 0, h => absurd h (Nat.not_succ_le_zero d)
  | d + 1, n + 1, h => by
    have h : d ≤ n := Nat.le_of_succ_le_succ h
    rw [call]
    refine simulates_spanned ?_ length_lt_of_call
    rw [Parser.call]
    refine (simulates_primary h).bind fun callee pos ts hahead => ?_
    -- The tokens ahead are kept for blame only, and the first of them is the parenthesis.
    rw [Parser.bind_of_ok (Parser.ahead_eq_ok.mpr ⟨rfl, rfl⟩)]
    refine agrees_passAny hahead ?_ fun hhead => ?_
    · rintro paren us rfl hparen
      rw [Parser.bind_of_ok (Parser.accept_cons (List.mem_singleton.mp hparen))]
      refine (reaches_previous hahead).agrees ?_
      have hcallOf : ∀ arguments, Simulates l (callOf callee paren arguments)
          (Parser.callOf callee (paren :: us) arguments) := by
        intro arguments pos ts hahead
        cases callee <;> first | exact agrees_pure hahead | exact .error Run.safe_nil rfl hahead
      exact ((simulates_arguments h).bind hcallOf) _ _ hahead.next
    · rw [Parser.bind_of_ok (Parser.accept_of_ne fun t ht =>
        mt List.mem_singleton.mpr (hhead t ht))]
      exact agrees_pure hahead

theorem simulates_primary : ∀ {d n : Nat}, d ≤ n → Simulates l (primary n) (Parser.primary d)
  | 0, _, _ => simulates_tooDeep
  | d + 1, 0, h => absurd h (Nat.not_succ_le_zero d)
  | d + 1, n + 1, h => by
    have h : d ≤ n := Nat.le_of_succ_le_succ h
    rw [primary]
    refine simulates_spanned (fun pos ts hahead => ?_) Parser.length_lt_of_primary
    refine (reaches_current hahead).agrees ?_
    refine agrees_passAny hahead ?_ fun htrue => agrees_passAny hahead ?_ fun hfalse =>
      agrees_passAny hahead ?_ fun hnil => agrees_passAny hahead ?_ fun hliteral => ?_
    iterate 3
      · rintro t us rfl hk
        simp only [Parser.primary, List.mem_singleton.mp hk]
        exact agrees_pure hahead.next
    · rintro t us rfl hk
      simp only [List.mem_cons, List.not_mem_nil, or_false] at hk
      obtain hk | hk := hk
      all_goals
        simp only [Parser.primary, hk]
        exact agrees_pure hahead.next
    · split
      · next hname =>
        cases ts with
        | nil =>
          rw [List.head?_nil, Option.getD_none, l.kind_stop] at hname
          cases hname
        | cons t us =>
          have hname : t.kind.isName = true := hname
          rw [Parser.primary_of_isName hname]
          exact (reaches_advance hahead).agrees (agrees_pure hahead.next)
      · next hname =>
        refine agrees_passAny hahead ?_ fun hparen => ?_
        · rintro t us rfl hk
          simp only [Parser.primary, List.mem_singleton.mp hk]
          exact simulates_group h _ _ hahead.next
        · rw [primary_of_ne htrue hfalse hnil hliteral hname hparen]
          exact .error Run.safe_nil rfl hahead

theorem simulates_group : ∀ {d n : Nat}, d ≤ n → Simulates l (group n) (Parser.group d)
  | 0, _, _ => simulates_tooDeep
  | d + 1, 0, h => absurd h (Nat.not_succ_le_zero d)
  | d + 1, n + 1, h => by
    have h : d ≤ n := Nat.le_of_succ_le_succ h
    rw [group, Parser.group]
    refine (simulates_expressionAt h .disjunction).bind fun inner => ?_
    exact simulates_expect.bind fun _ => simulates_pure

theorem simulates_arguments : ∀ {d n : Nat}, d ≤ n →
    Simulates l (arguments n) (Parser.arguments d)
  | 0, _, _ => simulates_tooDeep
  | d + 1, 0, h => absurd h (Nat.not_succ_le_zero d)
  | d + 1, n + 1, h => by
    have h : d ≤ n := Nat.le_of_succ_le_succ h
    rw [arguments, Parser.arguments]
    refine simulates_closing simulates_pure ?_
    refine (simulates_expressionAt h .disjunction).bind fun first => ?_
    exact (simulates_moreArguments h).bind fun _ => simulates_pure

theorem simulates_moreArguments : ∀ {d n : Nat}, d ≤ n →
    Simulates l (moreArguments n) (Parser.moreArguments d)
  | 0, _, _ => simulates_tooDeep
  | d + 1, 0, h => absurd h (Nat.not_succ_le_zero d)
  | d + 1, n + 1, h => by
    have h : d ≤ n := Nat.le_of_succ_le_succ h
    rw [moreArguments, Parser.moreArguments]
    refine simulates_accept_kind (fun _ => ?_) (simulates_expect.bind fun _ => simulates_pure)
    refine (simulates_expressionAt h .disjunction).bind fun next => ?_
    exact (simulates_moreArguments h).bind fun _ => simulates_pure

end

/-- The fuel at an index is as large as the depth on the tokens ahead. -/
theorem depth_le_fuelAt {pos : Nat} {ts : List Token} (h : l.Ahead pos ts) :
    Parser.depth ts ≤ fuelAt l.tokens pos := by
  have hlength := h.length_lt
  rw [Parser.depth, fuelAt]
  omega

theorem simulates_expression : Simulates l expression Parser.expression :=
  fun pos ts h => simulates_expressionAt (depth_le_fuelAt h) .disjunction pos ts h

/-! ## Statements -/

theorem simulates_expectThat {test : TokenKind → Bool} {what : Expected}
    {yes : Token → Cursor Token} (hend : test .eof = false)
    (hyes : ∀ {pos t ts}, l.Ahead pos (t :: ts) → Reaches l (yes t) pos t (pos + 1)) :
    Simulates l (do
      let t ← current
      if test t.kind then yes t else fail (.expected what) t) (Parser.expectThat test what) := by
  intro pos ts h
  refine (reaches_current h).agrees ?_
  split
  · next ht =>
    cases ts with
    | nil =>
      rw [List.head?_nil, Option.getD_none, l.kind_stop, hend] at ht
      cases ht
    | cons t ts =>
      have ht : test t.kind = true := ht
      rw [Parser.expectThat, if_pos ht]
      exact (hyes h).agrees_ok h.next
  · next ht =>
    cases ts with
    | nil => exact .error Run.safe_nil rfl h
    | cons t ts =>
      have ht : ¬ test t.kind = true := ht
      rw [Parser.expectThat, if_neg ht]
      exact .error Run.safe_nil rfl h

theorem simulates_eventName :
    Simulates l eventName (Parser.expectThat TokenKind.isEvent .eventName) :=
  simulates_expectThat rfl fun h => (reaches_advance h).bind reaches_pure

theorem simulates_parameter :
    Simulates l parameter (Parser.expectThat Parser.isParameter .parameter) :=
  simulates_expectThat rfl reaches_advance

theorem simulates_moreParameters : ∀ {d n : Nat}, d ≤ n →
    Simulates l (moreParameters n) (Parser.moreParameters d)
  | 0, _, _ => simulates_tooDeep
  | d + 1, 0, h => absurd h (Nat.not_succ_le_zero d)
  | d + 1, n + 1, h => by
    have h : d ≤ n := Nat.le_of_succ_le_succ h
    rw [moreParameters, Parser.moreParameters]
    refine simulates_accept_kind (fun _ => ?_) (simulates_expect.bind fun _ => simulates_pure)
    refine simulates_parameter.bind fun next => ?_
    exact (simulates_moreParameters h).bind fun _ => simulates_pure

theorem simulates_parameters {d n : Nat} (h : d ≤ n) :
    Simulates l (parameters n) (Parser.parameters d) := by
  rw [parameters, Parser.parameters]
  refine simulates_accept_kind (fun _ => simulates_closing simulates_pure ?_) simulates_pure
  refine simulates_parameter.bind fun first => ?_
  exact (simulates_moreParameters h).bind fun _ => simulates_pure

theorem simulates_condition {opening : Expected} :
    Simulates l (condition opening) (Parser.condition opening) := by
  rw [condition, Parser.condition]
  refine simulates_expect.bind fun _ => simulates_expression.bind fun test => ?_
  exact simulates_expect.bind fun _ => simulates_expect.bind fun _ => simulates_pure

theorem simulates_expressionStatement :
    Simulates l expressionStatement Parser.expressionStatement := by
  rw [expressionStatement, Parser.expressionStatement]
  exact simulates_expression.bind fun value => simulates_optional simulates_pure

/-- A body goes on up to its brace, and fails where the script ends before. -/
theorem agrees_body {more : Cursor (List α)} {closing : Expected} {pos : Nat} {ts : List Token}
    {q : Parsed (List α)} (h : l.Ahead pos ts)
    (hend : ts = [] → q = .error (.expected closing) [] [])
    (hclose : ∀ t us, ts = t :: us → t.kind = .rightBrace → q = .ok [] us)
    (hmore : ∀ t us, ts = t :: us → t.kind ≠ .rightBrace → Agrees l pos (more l.tokens pos) q) :
    Agrees l pos ((do
      if ← bodyEnds then
        let _ ← expect .rightBrace closing
        return []
      else more : Cursor (List α)) l.tokens pos) q := by
  cases ts with
  | nil =>
    have hnone : ∀ t ∈ ([] : List Token).head?, t.kind ≠ .rightBrace := by
      rintro t ⟨⟩
    have hends : Reaches l bodyEnds pos true pos :=
      (reaches_check_of_ne h hnone).bind (reaches_isAtEnd h)
    rw [hend rfl]
    exact hends.agrees ((simulates_expect.bind fun _ => simulates_pure) pos [] h)
  | cons t us =>
    by_cases hk : t.kind = .rightBrace
    · have hends : Reaches l bodyEnds pos true pos :=
        (hk ▸ reaches_check_of_eq h).bind reaches_pure
      rw [hclose t us rfl hk]
      exact hends.agrees ((hk ▸ reaches_expect h).agrees (agrees_pure h.next))
    · have hne : ∀ u ∈ (t :: us).head?, u.kind ≠ .rightBrace := by
        rintro _ ⟨⟩
        exact hk
      have hends : Reaches l bodyEnds pos false pos :=
        (reaches_check_of_ne h hne).bind (reaches_isAtEnd h)
      exact hends.agrees (hmore t us rfl hk)

theorem length_lt_of_championAt {d : Nat} {ts rest : List Token} {c : Champion}
    (h : Parser.championAt d ts = .ok c rest) : rest.length < ts.length := by
  have hapart : Parser.AllowsApart Expr.Apart := fun _ _ h => h
  obtain ⟨ys, rfl, _, hyields⟩ := Parser.spelled_of_championAt hapart h
  cases hyields none with
  | champion hw =>
    rw [List.length_append]
    simp only [List.length_cons, List.cons_append]
    omega

mutual

theorem simulates_statementAt : ∀ {d n : Nat}, d ≤ n →
    Simulates l (statementAt n) (Parser.statementAt d)
  | 0, _, _ => simulates_tooDeep
  | d + 1, 0, h => absurd h (Nat.not_succ_le_zero d)
  | d + 1, n + 1, h => by
    have h : d ≤ n := Nat.le_of_succ_le_succ h
    rw [statementAt]
    refine simulates_spanned (fun pos ts hahead => ?_) Parser.length_lt_of_statementAt
    refine agrees_check hahead ?_ fun hchampion => agrees_passAny hahead ?_ fun hif =>
      agrees_passAny hahead ?_ fun hwhile => agrees_passAny hahead ?_ fun hcombo =>
      agrees_passAny hahead ?_ fun hbrace => ?_
    · rintro t us rfl hk
      rw [Parser.statementAt_champion hk]
      exact ((simulates_championAt h).bind fun _ => simulates_pure) _ _ hahead
    · rintro t us rfl hk
      rw [Parser.statementAt_if (List.mem_singleton.mp hk)]
      refine (simulates_condition.bind fun test => ?_) _ _ hahead.next
      refine (simulates_bodyAt h _).bind fun thenBody => ?_
      exact (simulates_elseAt h).bind fun _ => simulates_pure
    · rintro t us rfl hk
      rw [Parser.statementAt_while (List.mem_singleton.mp hk)]
      refine (simulates_condition.bind fun test => ?_) _ _ hahead.next
      exact (simulates_bodyAt h _).bind fun _ => simulates_pure
    · rintro t us rfl hk
      rw [Parser.statementAt_combo (List.mem_singleton.mp hk)]
      refine (simulates_expect.bind fun _ => ?_) _ _ hahead.next
      exact (simulates_bodyAt h _).bind fun _ => simulates_pure
    · rintro t us rfl hk
      rw [Parser.statementAt_block (List.mem_singleton.mp hk)]
      exact ((simulates_bodyAt h _).bind fun _ => simulates_pure) _ _ hahead.next
    · rw [Parser.statementAt_expression]
      · exact simulates_expressionStatement pos ts hahead
      · rintro t ht (hk | hk | hk | hk | hk)
        · exact hchampion t ht hk
        · exact hif t ht (List.mem_singleton.mpr hk)
        · exact hwhile t ht (List.mem_singleton.mpr hk)
        · exact hcombo t ht (List.mem_singleton.mpr hk)
        · exact hbrace t ht (List.mem_singleton.mpr hk)

theorem simulates_bodyAt : ∀ {d n : Nat}, d ≤ n → ∀ closing : Expected,
    Simulates l (bodyAt n closing) (Parser.bodyAt d closing)
  | 0, _, _, _ => simulates_tooDeep
  | d + 1, 0, h, _ => absurd h (Nat.not_succ_le_zero d)
  | d + 1, n + 1, h, closing => by
    have h : d ≤ n := Nat.le_of_succ_le_succ h
    rw [bodyAt]
    intro pos ts hahead
    refine agrees_body hahead ?_ ?_ ?_
    · rintro rfl
      rfl
    · rintro t us rfl hk
      exact Parser.bodyAt_close hk
    · rintro t us rfl hk
      rw [Parser.bodyAt_statement hk]
      refine ((simulates_statementAt h).bind fun first => ?_) _ _ hahead
      exact (simulates_bodyAt h closing).bind fun _ => simulates_pure

theorem simulates_elseAt : ∀ {d n : Nat}, d ≤ n → Simulates l (elseAt n) (Parser.elseAt d)
  | 0, _, _ => simulates_tooDeep
  | d + 1, 0, h => absurd h (Nat.not_succ_le_zero d)
  | d + 1, n + 1, h => by
    have h : d ≤ n := Nat.le_of_succ_le_succ h
    rw [elseAt, Parser.elseAt]
    refine simulates_accept_kind (fun _ => simulates_expect.bind fun _ => ?_) simulates_pure
    exact (simulates_bodyAt h _).bind fun _ => simulates_pure

theorem simulates_championAt : ∀ {d n : Nat}, d ≤ n →
    Simulates l (championAt n) (Parser.championAt d)
  | 0, _, _ => simulates_tooDeep
  | d + 1, 0, h => absurd h (Nat.not_succ_le_zero d)
  | d + 1, n + 1, h => by
    have h : d ≤ n := Nat.le_of_succ_le_succ h
    rw [championAt]
    refine simulates_spanned ?_ length_lt_of_championAt
    rw [Parser.championAt]
    refine simulates_expect.bind fun _ => simulates_expect.bind fun name => ?_
    refine simulates_expect.bind fun _ => ?_
    exact (simulates_handlersAt h).bind fun _ => simulates_pure

theorem simulates_handlersAt : ∀ {d n : Nat}, d ≤ n →
    Simulates l (handlersAt n) (Parser.handlersAt d)
  | 0, _, _ => simulates_tooDeep
  | d + 1, 0, h => absurd h (Nat.not_succ_le_zero d)
  | d + 1, n + 1, h => by
    have h : d ≤ n := Nat.le_of_succ_le_succ h
    rw [handlersAt]
    intro pos ts hahead
    refine agrees_body hahead ?_ ?_ ?_
    · rintro rfl
      rfl
    · rintro t us rfl hk
      exact Parser.handlersAt_close hk
    · rintro t us rfl hk
      rw [Parser.handlersAt_handler hk]
      refine (simulates_eventName.bind fun event => ?_) _ _ hahead
      refine (simulates_parameters h).bind fun params => simulates_expect.bind fun _ => ?_
      refine (simulates_bodyAt h _).bind fun body => ?_
      exact (simulates_handlersAt h).bind fun _ => simulates_pure

end

theorem simulates_statement : Simulates l statement Parser.statement :=
  fun pos ts h => simulates_statementAt (depth_le_fuelAt h) pos ts h

theorem simulates_champion : Simulates l champion Parser.champion :=
  fun pos ts h => simulates_championAt (depth_le_fuelAt h) pos ts h

end

end Cursor
end RiftScript
