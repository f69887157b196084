/-
A run beside another run.

The second run is of the same script, which may stand elsewhere, and it may have another host. If
the two hosts give the same replies on machines that are alike, and leave machines that are alike,
then so do the two runs: they compute the same values and fail with the same errors, except for the
places of the tokens that these name.
-/
import RiftScript.Proofs.Relocation
import RiftScript.Proofs.Running.Contracts

namespace RiftScript

/-! ## Steps -/

namespace Run

variable {σ τ α β : Type}

/-- Two steps ended alike: with results that go together or with the same failure elsewhere, and in
either case with machines that are alike. -/
inductive Agree (f : Relocation) (alike : Machine σ → Machine τ → Prop) (good : α → β → Prop) :
    EStateM.Result Failure (Machine σ) α → EStateM.Result Failure (Machine τ) β → Prop where
  | ok {a : α} {b : β} {m : Machine σ} {n : Machine τ} (hgood : good a b) (h : alike m n) :
      Agree f alike good (.ok a m) (.ok b n)
  | error {failure failure' : Failure} {m : Machine σ} {n : Machine τ}
      (hfailure : failure' = failure.relocate f) (h : alike m n) :
      Agree f alike good (.error failure m) (.error failure' n)

/-- From machines that are alike the two steps end alike. -/
def Simulates (f : Relocation) (alike : Machine σ → Machine τ → Prop) (good : α → β → Prop)
    (x : Run σ α) (y : Run τ β) : Prop :=
  ∀ m n, alike m n → Agree f alike good (x m) (y n)

variable {f : Relocation} {alike : Machine σ → Machine τ → Prop} {good : α → β → Prop}

theorem simulates_pure {a : α} {b : β} (h : good a b) :
    Simulates f alike good (pure a) (pure b) :=
  fun _ _ hmn => .ok h hmn

theorem simulates_lift (result : Except Failure α) :
    Simulates f alike Eq (lift result) (lift (result.mapError (Failure.relocate f))) := by
  intro m n h
  cases result with
  | ok a => exact .ok rfl h
  | error failure => exact .error rfl h

theorem Agree.of_ok {a : α} {m : Machine σ} {second : EStateM.Result Failure (Machine τ) β}
    (h : Agree f alike good (.ok a m) second) : ∃ b n, second = .ok b n ∧ good a b ∧ alike m n := by
  cases h with
  | ok hgood h => exact ⟨_, _, rfl, hgood, h⟩

theorem Agree.of_error {failure : Failure} {m : Machine σ}
    {second : EStateM.Result Failure (Machine τ) β}
    (h : Agree f alike good (.error failure m) second) :
    ∃ n, second = .error (failure.relocate f) n ∧ alike m n := by
  cases h with
  | error hfailure h => exact ⟨_, by rw [hfailure], h⟩

theorem Simulates.bindWith {γ δ : Type} {next : γ → δ → Prop} {x : Run σ α} {y : Run τ β}
    {g : α → Run σ γ} {g' : β → Run τ δ} (hx : Simulates f alike good x y)
    (hg : ∀ a b, good a b → Simulates f alike next (g a) (g' b)) :
    Simulates f alike next (x >>= g) (y >>= g') := by
  intro m n h
  have hx := hx m n h
  cases hm : x m with
  | ok a m' =>
    rw [hm] at hx
    obtain ⟨b, n', hn, hgood, halike⟩ := hx.of_ok
    rw [bind_of_ok hm, bind_of_ok hn]
    exact hg a b hgood m' n' halike
  | error failure m' =>
    rw [hm] at hx
    obtain ⟨n', hn, halike⟩ := hx.of_error
    rw [bind_of_error hm, bind_of_error hn]
    exact .error rfl halike

theorem Simulates.bind {γ : Type} {x : Run σ γ} {y : Run τ γ} {g : γ → Run σ α} {g' : γ → Run τ β}
    (hx : Simulates f alike Eq x y) (hg : ∀ c, Simulates f alike good (g c) (g' c)) :
    Simulates f alike good (x >>= g) (y >>= g') :=
  hx.bindWith fun c _ hc => hc ▸ hg c

theorem Simulates.mono {good' : α → β → Prop} {x : Run σ α} {y : Run τ β}
    (h : Simulates f alike good x y) (hgood : ∀ a b, good a b → good' a b) :
    Simulates f alike good' x y := by
  intro m n hmn
  have h := h m n hmn
  generalize x m = first, y n = second at h ⊢
  cases h with
  | ok hab hm => exact .ok (hgood _ _ hab) hm
  | error hfailure hm => exact .error hfailure hm

/-- What is made of a result does not change the machine. -/
theorem machine_map (x : Run σ α) (g : α → β) (m : Machine σ) :
    machine ((do return g (← x) : Run σ β) m) = machine (x m) := by
  cases hm : x m with
  | ok a n =>
    rw [bind_of_ok hm]
    rfl
  | error failure n =>
    rw [bind_of_error hm]
    rfl

/-- How a step ended, on a machine that is made from the one it left. -/
def onMachine (g : Machine σ → Machine τ) :
    EStateM.Result Failure (Machine σ) α → EStateM.Result Failure (Machine τ) α
  | .ok a m => .ok a (g m)
  | .error failure m => .error failure (g m)

theorem machine_onMachine (g : Machine σ → Machine τ)
    (result : EStateM.Result Failure (Machine σ) α) :
    machine (onMachine g result) = g (machine result) := by
  cases result <;> rfl

/-- Where the second machine is made from the first, a step that does the same ends the same. -/
theorem Simulates.eq_onMachine {g : Machine σ → Machine τ} {x : Run σ α} {y : Run τ α}
    (h : Simulates .stay (fun m n => n = g m) Eq x y) (m : Machine σ) :
    y (g m) = onMachine g (x m) := by
  have h := h m (g m) rfl
  generalize x m = first, y (g m) = second at h ⊢
  cases h with
  | @ok a b _ _ hab hm =>
    rw [← hab, hm]
    rfl
  | @error failure _ _ _ hfailure hm =>
    rw [hfailure, hm, failure.relocate_stay]
    rfl

theorem valueAt_relocate (f : Relocation) (token : Token) (d : Datum) :
    valueAt (f.token token) d = (valueAt token d).mapError (Failure.relocate f) := by
  unfold valueAt
  split <;> rfl

/-- The host replies alike to two questions, and the machines stay alike. -/
def Replies (f : Relocation) (alike : Machine σ → Machine τ → Prop) (m : Machine σ)
    (n : Machine τ) (a : Answer σ) (b : Answer τ) : Prop :=
  b.reply = a.reply.mapError (Failure.relocate f) ∧ alike (m.accept a) (n.accept b)

theorem simulates_ask {token : Token} {question : σ → Answer σ} {question' : τ → Answer τ}
    (h : ∀ m n, alike m n → Replies f alike m n (question m.host) (question' n.host)) :
    Simulates f alike Eq (ask token question) (ask (f.token token) question') := by
  intro m n hmn
  obtain ⟨hreply, halike⟩ := h m n hmn
  have hvalue : (question' n.host).reply.bind (valueAt (f.token token)) =
      ((question m.host).reply.bind (valueAt token)).mapError (Failure.relocate f) := by
    rw [hreply]
    cases (question m.host).reply with
    | ok d => exact valueAt_relocate f token d
    | error failure => rfl
  rw [ask_apply, ask_apply, hvalue]
  exact simulates_lift _ _ _ halike

end Run

/-! ## Operators -/

namespace Value

variable (f : Relocation) (operator : Token)

theorem applyUnary_relocate (v : Value) :
    v.applyUnary (f.token operator) =
      (v.applyUnary operator).mapError (Failure.relocate f) := by
  unfold applyUnary
  rw [f.kind_token, f.lexeme_token]
  split
  · rfl
  · rfl
  · split <;> rfl
  · rfl

theorem plus_relocate (v w : Value) :
    v.plus (f.token operator) w = (v.plus operator w).mapError (Failure.relocate f) := by
  unfold plus
  split <;> rfl

theorem numeric_relocate {g g' : Float → Float → Except Failure Value}
    (hg : ∀ x y, g' x y = (g x y).mapError (Failure.relocate f)) (v w : Value) :
    v.numeric (f.token operator) g' w =
      (v.numeric operator g w).mapError (Failure.relocate f) := by
  unfold numeric
  split
  · exact hg _ _
  · rfl

theorem divide_relocate (x y : Float) :
    divide (f.token operator) x y = (divide operator x y).mapError (Failure.relocate f) := by
  unfold divide
  split <;> rfl

theorem applyBinary_relocate (v w : Value) :
    v.applyBinary (f.token operator) w =
      (v.applyBinary operator w).mapError (Failure.relocate f) := by
  unfold applyBinary
  rw [f.kind_token, f.lexeme_token]
  split
  · exact plus_relocate f operator v w
  · rfl
  · rfl
  · exact numeric_relocate f operator (by intro x y; rfl) v w
  · exact numeric_relocate f operator (by intro x y; rfl) v w
  · exact numeric_relocate f operator (divide_relocate f operator) v w
  · exact numeric_relocate f operator (by intro x y; rfl) v w
  · exact numeric_relocate f operator (by intro x y; rfl) v w
  · exact numeric_relocate f operator (by intro x y; rfl) v w
  · exact numeric_relocate f operator (by intro x y; rfl) v w
  · rfl

end Value

/-! ## Trees -/

theorem executeAll_append {σ : Type} (r : Resolver σ) (rounds : Nat) (ss ts : List Stmt) :
    executeAll r rounds (ss ++ ts) = (do
      executeAll r rounds ss
      executeAll r rounds ts) := by
  induction ss with
  | nil => rfl
  | cons s ss ih =>
    rw [List.cons_append, executeAll, executeAll, ih, bind_assoc]

/-- The second host gives the replies of the first on machines that are alike, and they stay
alike. -/
structure Resolver.Simulates {σ τ : Type} (f : Relocation) (alike : Machine σ → Machine τ → Prop)
    (r : Resolver σ) (r' : Resolver τ) : Prop where
  declare : ∀ m n, alike m n → ∀ d : Champion, alike (m.declare d) (n.declare (d.relocate f))
  lookup : ∀ (name : Token) m n, alike m n →
    Run.Replies f alike m n (r.lookup name m.host) (r'.lookup (f.token name) n.host)
  call : ∀ (callee : Token) (arguments : List Value) m n, alike m n →
    Run.Replies f alike m n (r.call callee arguments m.host)
      (r'.call (f.token callee) arguments n.host)

section Operations

variable {σ : Type} {r : Resolver σ} {left right : Expr} {operator : Token}

theorem Expr.evaluate_and (h : operator.kind = .andWord) :
    (Expr.binary left operator right).evaluate r = do
      let l ← left.evaluate r
      if l.truthy then return .boolean (← right.evaluate r).truthy else return .boolean false := by
  rw [Expr.evaluate]
  simp only [h]

theorem Expr.evaluate_or (h : operator.kind = .orWord) :
    (Expr.binary left operator right).evaluate r = do
      let l ← left.evaluate r
      if l.truthy then return .boolean true else return .boolean (← right.evaluate r).truthy := by
  rw [Expr.evaluate]
  simp only [h]

theorem Expr.evaluate_strict (hand : operator.kind ≠ .andWord) (hor : operator.kind ≠ .orWord) :
    (Expr.binary left operator right).evaluate r = (do
      let l ← left.evaluate r
      Run.lift (l.applyBinary operator (← right.evaluate r))) := by
  rw [Expr.evaluate]
  refine congrArg (left.evaluate r >>= ·) (funext fun l => ?_)
  split
  · contradiction
  · contradiction
  · rfl

end Operations

section Trees

variable {σ τ : Type} {f : Relocation} {alike : Machine σ → Machine τ → Prop} {r : Resolver σ}
  {r' : Resolver τ}

theorem simulates_declare (hr : Resolver.Simulates f alike r r') (d : Champion) :
    Run.Simulates f alike Eq (Run.declare d) (Run.declare (d.relocate f)) :=
  fun m n h => .ok rfl (hr.declare m n h d)

mutual

theorem Expr.evaluate_simulates (hr : Resolver.Simulates f alike r r') :
    (e : Expr) → Run.Simulates f alike Eq (e.evaluate r) ((e.relocate f).evaluate r')
  | .literal value _ => by
    rw [Expr.relocate, Expr.evaluate, Expr.evaluate]
    exact Run.simulates_pure rfl
  | .grouping inner => by
    rw [Expr.relocate, Expr.evaluate, Expr.evaluate]
    exact inner.evaluate_simulates hr
  | .unary operator operand => by
    rw [Expr.relocate, Expr.evaluate, Expr.evaluate]
    refine (operand.evaluate_simulates hr).bind fun v => ?_
    rw [Value.applyUnary_relocate]
    exact Run.simulates_lift _
  | .binary left operator right => by
    have hkind := f.kind_token operator
    have hleft := left.evaluate_simulates hr
    have hright := right.evaluate_simulates hr
    have htruth : Run.Simulates f alike Eq (do return Value.boolean (← right.evaluate r).truthy)
        (do return Value.boolean (← (right.relocate f).evaluate r').truthy) :=
      hright.bind fun _ => Run.simulates_pure rfl
    rw [Expr.relocate]
    by_cases hand : operator.kind = .andWord
    · rw [Expr.evaluate_and hand, Expr.evaluate_and (hkind.trans hand)]
      refine hleft.bind fun v => ?_
      split
      · exact htruth
      · exact Run.simulates_pure rfl
    · by_cases hor : operator.kind = .orWord
      · rw [Expr.evaluate_or hor, Expr.evaluate_or (hkind.trans hor)]
        refine hleft.bind fun v => ?_
        split
        · exact Run.simulates_pure rfl
        · exact htruth
      · rw [Expr.evaluate_strict hand hor,
          Expr.evaluate_strict (hkind ▸ hand) (hkind ▸ hor)]
        refine hleft.bind fun v => hright.bind fun w => ?_
        rw [Value.applyBinary_relocate]
        exact Run.simulates_lift _
  | .variable name => by
    rw [Expr.relocate, Expr.evaluate, Expr.evaluate]
    exact Run.simulates_ask (hr.lookup name)
  | .call callee arguments => by
    rw [Expr.relocate, Expr.evaluate, Expr.evaluate]
    refine (evaluateAll_simulates hr arguments).bind fun values => ?_
    exact Run.simulates_ask (hr.call callee values)
  | .champion declared => by
    rw [Expr.relocate, Expr.evaluate, Expr.evaluate]
    exact (simulates_declare hr declared).bind fun _ => Run.simulates_pure rfl

theorem evaluateAll_simulates (hr : Resolver.Simulates f alike r r') :
    (es : List Expr) →
      Run.Simulates f alike Eq (evaluateAll r es) (evaluateAll r' (relocateAll f es))
  | [] => by
    rw [relocateAll, evaluateAll, evaluateAll]
    exact Run.simulates_pure rfl
  | e :: es => by
    rw [relocateAll, evaluateAll, evaluateAll]
    refine (e.evaluate_simulates hr).bind fun v => ?_
    exact (evaluateAll_simulates hr es).bind fun _ => Run.simulates_pure rfl

end

theorem repeatWhile_simulates {test : Run σ Value} {test' : Run τ Value} {body : Run σ Unit}
    {body' : Run τ Unit} (ht : Run.Simulates f alike Eq test test')
    (hb : Run.Simulates f alike Eq body body') (rounds : Nat) :
    Run.Simulates f alike Eq (repeatWhile test body rounds) (repeatWhile test' body' rounds) := by
  induction rounds with
  | zero => exact fun _ _ h => .error rfl h
  | succ rounds ih =>
    rw [repeatWhile, repeatWhile]
    refine ht.bind fun v => ?_
    split
    · exact hb.bind fun _ => ih
    · exact Run.simulates_pure rfl

mutual

theorem Stmt.execute_simulates (hr : Resolver.Simulates f alike r r') (rounds : Nat) :
    (s : Stmt) → Run.Simulates f alike Eq (s.execute r rounds) ((s.relocate f).execute r' rounds)
  | .expression value => by
    rw [Stmt.relocate, Stmt.execute, Stmt.execute]
    exact (value.evaluate_simulates hr).bind fun _ => Run.simulates_pure rfl
  | .block statements => by
    rw [Stmt.relocate, Stmt.execute, Stmt.execute]
    exact executeAll_simulates hr rounds statements
  | .conditional condition thenBody elseBody => by
    rw [Stmt.relocate, Stmt.execute, Stmt.execute]
    refine (condition.evaluate_simulates hr).bind fun v => ?_
    split
    · exact executeAll_simulates hr rounds thenBody
    · exact executeElse_simulates hr rounds elseBody
  | .loop condition body => by
    rw [Stmt.relocate, Stmt.execute, Stmt.execute]
    exact repeatWhile_simulates (condition.evaluate_simulates hr)
      (executeAll_simulates hr rounds body) rounds
  | .combo actions => by
    rw [Stmt.relocate, Stmt.execute, Stmt.execute]
    exact executeAll_simulates hr rounds actions
  | .champion declared => by
    rw [Stmt.relocate, Stmt.execute, Stmt.execute]
    exact simulates_declare hr declared

theorem executeAll_simulates (hr : Resolver.Simulates f alike r r') (rounds : Nat) :
    (ss : List Stmt) →
      Run.Simulates f alike Eq (executeAll r rounds ss) (executeAll r' rounds (relocateBody f ss))
  | [] => by
    rw [relocateBody, executeAll, executeAll]
    exact Run.simulates_pure rfl
  | s :: ss => by
    rw [relocateBody, executeAll, executeAll]
    exact (s.execute_simulates hr rounds).bind fun _ => executeAll_simulates hr rounds ss

theorem executeElse_simulates (hr : Resolver.Simulates f alike r r') (rounds : Nat) :
    (e : Option (List Stmt)) →
      Run.Simulates f alike Eq (executeElse r rounds e) (executeElse r' rounds (relocateElse f e))
  | none => by
    rw [relocateElse, executeElse, executeElse]
    exact Run.simulates_pure rfl
  | some body => by
    rw [relocateElse, executeElse, executeElse]
    exact executeAll_simulates hr rounds body

end

/-! ## Runs -/

/-- Machines that are alike stay so when a run reports a result, or one and the same error. -/
structure Reports (f : Relocation) (alike : Machine σ → Machine τ → Prop) : Prop where
  result : ∀ m n, alike m n → ∀ v, alike (m.emit (.result v)) (n.emit (.result v))
  failure : ∀ m n, alike m n → ∀ e, alike (m.emit (.failure e)) (n.emit (.failure (e.relocate f)))

theorem Stmt.runTop_simulates (hr : Resolver.Simulates f alike r r') (hrep : Reports f alike)
    (rounds : Nat) (echo : Bool) (s : Stmt) :
    Run.Simulates f alike Eq (s.runTop r rounds echo) ((s.relocate f).runTop r' rounds echo) := by
  cases s with
  | expression value =>
    rw [Stmt.relocate, Stmt.runTop, Stmt.runTop]
    refine (value.evaluate_simulates hr).bind fun v => ?_
    split
    · exact fun m n h => .ok rfl (hrep.result m n h v)
    · exact Run.simulates_pure rfl
  | _ => exact Stmt.execute_simulates hr rounds _

/-- Programs go together if their top-level statements do, one by one. -/
theorem Program.run_simulates_map {rounds : Nat} {echo echo' : Bool} {g : Stmt → Stmt}
    (hg : ∀ s, Run.Simulates f alike Eq (s.runTop r rounds echo) ((g s).runTop r' rounds echo'))
    (hfailure : ∀ m n, alike m n → ∀ e,
      alike (m.emit (.failure e)) (n.emit (.failure (e.relocate f)))) (p : Program) :
    Run.Simulates f alike (fun errors errors' => errors' = errors.map (RuntimeError.relocate f))
      (p.run r rounds echo) (Program.run r' rounds echo' (p.map g)) := by
  induction p with
  | nil => exact Run.simulates_pure rfl
  | cons s ss ih =>
    intro m n h
    have hs := hg s m n h
    rw [List.map_cons]
    cases hm : s.runTop r rounds echo m with
    | ok u m' =>
      rw [hm] at hs
      obtain ⟨_, n', hn, _, halike⟩ := hs.of_ok
      rw [Program.run_cons_of_ok hm, Program.run_cons_of_ok hn]
      exact ih m' n' halike
    | error failure m' =>
      rw [hm] at hs
      obtain ⟨n', hn, halike⟩ := hs.of_error
      cases failure with
      | script e =>
        rw [Failure.relocate] at hn
        rw [Program.run_cons_of_script hm, Program.run_cons_of_script hn]
        refine ih.bindWith (fun errors errors' hsame => ?_) _ _ (hfailure m' n' halike e)
        exact Run.simulates_pure (congrArg (e.relocate f :: ·) hsame)
      | _ =>
        rw [Program.run_cons_of_other hm (fun _ h => by cases h),
          Program.run_cons_of_other hn (fun _ h => by cases h)]
        exact .error rfl halike

theorem relocateBody_eq_map (f : Relocation) (ss : List Stmt) :
    relocateBody f ss = ss.map (Stmt.relocate f) := by
  induction ss with
  | nil => rfl
  | cons s ss ih => rw [relocateBody, ih, List.map_cons]

theorem Program.run_simulates (hr : Resolver.Simulates f alike r r') (hrep : Reports f alike)
    (rounds : Nat) (echo : Bool) (p : Program) :
    Run.Simulates f alike (fun errors errors' => errors' = errors.map (RuntimeError.relocate f))
      (p.run r rounds echo) (Program.run r' rounds echo (relocateBody f p)) := by
  rw [relocateBody_eq_map]
  exact run_simulates_map (fun s => s.runTop_simulates hr hrep rounds echo) hrep.failure p

/-- Errors of tokens that stay where they are. -/
theorem Program.eq_of_stay (errors errors' : List RuntimeError)
    (h : errors' = errors.map (RuntimeError.relocate .stay)) : errors = errors' := by
  rw [h, funext RuntimeError.relocate_stay]
  exact errors.map_id.symm

/-! ## Events -/

theorem runHandlers_simulates {g : Handler → Handler} {rounds : Nat} {event champion : String}
    (hg : ∀ h : Handler,
      Run.Simulates f alike Eq (executeAll r rounds h.body) (executeAll r' rounds (g h).body))
    (hrunning : ∀ m n, alike m n →
      alike (m.emit (.running event champion)) (n.emit (.running event champion)))
    (hs : List Handler) :
    Run.Simulates f alike Eq (runHandlers r rounds event champion hs)
      (runHandlers r' rounds event champion (hs.map g)) := by
  induction hs with
  | nil => exact Run.simulates_pure rfl
  | cons h hs ih =>
    rw [List.map_cons, runHandlers, runHandlers]
    have hnotice : Run.Simulates f alike Eq (Run.notice (.running event champion))
        (Run.notice (.running event champion)) := fun m n hmn => .ok rfl (hrunning m n hmn)
    exact hnotice.bind fun _ => (hg h).bind fun _ => ih

/-- An event is handled alike if the champion that handles it is known to both machines, with
handlers that do alike. -/
theorem trigger_simulates {g : Champion → Champion} {k : Handler → Handler} {rounds : Nat}
    {event champion : String}
    (hget : ∀ m n, alike m n → n.champions.get? champion = (m.champions.get? champion).map g)
    (hhandlers : ∀ c, (g c).handlersFor event = (c.handlersFor event).map k)
    (hk : ∀ h : Handler,
      Run.Simulates f alike Eq (executeAll r rounds h.body) (executeAll r' rounds (k h).body))
    (hrunning : ∀ m n, alike m n →
      alike (m.emit (.running event champion)) (n.emit (.running event champion)))
    (hunknown : ∀ m n, alike m n →
      alike (m.emit (.unknownChampion champion)) (n.emit (.unknownChampion champion))) :
    Run.Simulates f alike Eq (trigger r rounds champion event)
      (trigger r' rounds champion event) := by
  intro m n hmn
  rw [trigger_apply, trigger_apply, hget m n hmn]
  cases m.champions.get? champion with
  | none =>
    have hnotice : Run.Simulates f alike Eq (Run.notice (.unknownChampion champion))
        (Run.notice (.unknownChampion champion)) := fun m n hmn => .ok rfl (hunknown m n hmn)
    exact (hnotice.bind fun _ => Run.simulates_pure rfl) m n hmn
  | some c =>
    rw [Option.map_some]
    dsimp only
    rw [hhandlers c, List.length_map]
    exact ((runHandlers_simulates hk hrunning _).bind fun _ => Run.simulates_pure rfl) m n hmn

end Trees
end RiftScript
