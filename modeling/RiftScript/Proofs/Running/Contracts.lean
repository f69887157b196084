/-
What every run of a script keeps to.

A contract says what holds of every machine of a run, how later machines are related to earlier
ones, which values are computed and which failures can end a step. A host honours a contract if
each of its answers does; then so does every expression, every statement and every run. What a
tree mentions must be allowed by the contract, so that the host is asked for nothing else.
-/
import RiftScript.Eval.Basic
import RiftScript.Proofs.Running.Mentions

namespace RiftScript

/-- Actions are the notices that come from the host. -/
def Notice.isAction : Notice → Bool
  | action _ _ => true
  | _ => false

structure Contract (σ : Type) where
  /-- Holds of all machines of a run if it holds of the first. -/
  holds : Machine σ → Prop
  /-- How a machine is related to the ones before it. -/
  leads : Machine σ → Machine σ → Prop
  allows : Mention → Prop
  values : Value → Prop
  failures : Failure → Prop
  refl : ∀ m, leads m m
  trans : ∀ {m n o}, leads m n → leads n o → leads m o
  emit : ∀ {m}, holds m → ∀ n : Notice, n.isAction = false →
    holds (m.emit n) ∧ leads m (m.emit n)
  declare : ∀ {m}, holds m → ∀ d : Champion, holds (m.declare d) ∧ leads m (m.declare d)
  plain : ∀ {v : Value}, v.isForeign = false → values v
  literal : ∀ {v : Value}, allows (.literal v) → values v
  script : ∀ e, failures (.script e)
  unfinished : failures .unfinished

/-- The machine that a step leaves, whether it ends with a result or with a failure. -/
def Run.machine {σ α : Type} : EStateM.Result Failure (Machine σ) α → Machine σ
  | .ok _ m => m
  | .error _ m => m

namespace Contract

variable {σ : Type}

/-- A result that keeps to the contract. -/
def Settles {α : Type} (c : Contract σ) (good : α → Prop) : Except Failure α → Prop
  | .ok a => good a
  | .error f => c.failures f

/-- What a step from the machine `m` gave keeps to the contract, whether it is a result or a
failure. -/
def Keeps {α : Type} (c : Contract σ) (good : α → Prop) (m : Machine σ) :
    EStateM.Result Failure (Machine σ) α → Prop
  | .ok a m' => c.holds m' ∧ c.leads m m' ∧ good a
  | .error f m' => c.holds m' ∧ c.leads m m' ∧ c.failures f

theorem Keeps.leads {α : Type} {c : Contract σ} {good : α → Prop} {m : Machine σ}
    {result : EStateM.Result Failure (Machine σ) α} (h : c.Keeps good m result) :
    c.leads m (Run.machine result) := by
  cases result with
  | ok a m' => exact h.2.1
  | error f m' => exact h.2.1

theorem Keeps.of_leads {α : Type} {c : Contract σ} {good : α → Prop} {m n : Machine σ}
    (hlead : c.leads m n) {result : EStateM.Result Failure (Machine σ) α}
    (h : c.Keeps good n result) : c.Keeps good m result := by
  cases result with
  | ok a o => exact ⟨h.1, c.trans hlead h.2.1, h.2.2⟩
  | error f o => exact ⟨h.1, c.trans hlead h.2.1, h.2.2⟩

/-- What the host gave back on behalf of a token keeps to the contract. -/
structure Accepts (c : Contract σ) (token : Token) (m : Machine σ) (a : Answer σ) : Prop where
  holds : c.holds (m.accept a)
  leads : c.leads m (m.accept a)
  settles : c.Settles c.values (a.reply.bind (Run.valueAt token))

end Contract

/-- Every answer of the host keeps to the contract. -/
structure Resolver.Honours {σ : Type} (r : Resolver σ) (c : Contract σ) : Prop where
  lookup : ∀ {m}, c.holds m → ∀ {name}, c.allows (.name name) →
    c.Accepts name m (r.lookup name m.host)
  call : ∀ {m}, c.holds m → ∀ {callee}, c.allows (.name callee) →
    ∀ {arguments : List Value}, (∀ v ∈ arguments, c.values v) →
      c.Accepts callee m (r.call callee arguments m.host)

/-! ## Steps -/

namespace Run

variable {σ α β : Type}

theorem bind_of_ok {x : Run σ α} {f : α → Run σ β} {m n : Machine σ} {a : α}
    (h : x m = .ok a n) : (x >>= f) m = f a n := by
  show EStateM.bind x f m = f a n
  rw [EStateM.bind, h]

theorem bind_of_error {x : Run σ α} {f : α → Run σ β} {m n : Machine σ} {failure : Failure}
    (h : x m = .error failure n) : (x >>= f) m = .error failure n := by
  show EStateM.bind x f m = .error failure n
  rw [EStateM.bind, h]

theorem lift_bind (result : Except Failure α) (f : α → Except Failure β) :
    (lift result >>= fun a => lift (f a) : Run σ β) = lift (result.bind f) := by
  cases result <;> rfl

/-- A question changes the machine once, whatever comes of it. -/
theorem ask_apply (token : Token) (question : σ → Answer σ) (m : Machine σ) :
    ask token question m =
      lift ((question m.host).reply.bind (valueAt token)) (m.accept (question m.host)) := by
  rw [← lift_bind]
  rfl

theorem isForeign_of_valueAt {token : Token} {d : Datum} {v : Value}
    (h : valueAt token d = .ok v) : v.isForeign = false := by
  have hdatum : Value.ofDatum d = .ok v := by
    unfold valueAt at h
    split at h <;> cases h
    assumption
  cases d with
  | int n =>
    rw [Value.ofDatum] at hdatum
    split at hdatum <;> cases hdatum
    rfl
  | _ => cases hdatum <;> rfl

theorem isForeign_of_bind_valueAt {token : Token} {reply : Except Failure Datum} {v : Value}
    (h : reply.bind (valueAt token) = .ok v) : v.isForeign = false := by
  cases reply with
  | ok d => exact isForeign_of_valueAt h
  | error f => cases h

/-- From every machine that the contract holds of, the step keeps to it. -/
def Obeys (c : Contract σ) (good : α → Prop) (x : Run σ α) : Prop :=
  ∀ m, c.holds m → c.Keeps good m (x m)

variable {c : Contract σ} {good : α → Prop}

theorem obeys_pure {a : α} (h : good a) : Obeys c good (pure a) :=
  fun m hm => ⟨hm, c.refl m, h⟩

theorem obeys_lift {result : Except Failure α} (h : c.Settles good result) :
    Obeys c good (lift result) := by
  intro m hm
  cases result with
  | ok a => exact ⟨hm, c.refl m, h⟩
  | error f => exact ⟨hm, c.refl m, h⟩

theorem Obeys.bind {next : β → Prop} {x : Run σ α} {f : α → Run σ β} (hx : Obeys c good x)
    (hf : ∀ a, good a → Obeys c next (f a)) : Obeys c next (x >>= f) := by
  intro m hm
  have hx := hx m hm
  cases hxm : x m with
  | ok a m' =>
    rw [hxm] at hx
    rw [bind_of_ok hxm]
    exact (hf a hx.2.2 m' hx.1).of_leads hx.2.1
  | error e m' =>
    rw [hxm] at hx
    rw [bind_of_error hxm]
    exact hx

theorem obeys_notice {n : Notice} (h : n.isAction = false) :
    Obeys c (fun _ => True) (notice n) :=
  fun _ hm => ⟨(c.emit hm n h).1, (c.emit hm n h).2, trivial⟩

theorem obeys_declare (d : Champion) : Obeys c (fun _ => True) (declare d) :=
  fun _ hm => ⟨(c.declare hm d).1, (c.declare hm d).2, trivial⟩

theorem obeys_ask {token : Token} {question : σ → Answer σ}
    (h : ∀ m, c.holds m → c.Accepts token m (question m.host)) :
    Obeys c c.values (ask token question) := by
  intro m hm
  obtain ⟨hholds, hleads, hsettles⟩ := h m hm
  rw [ask_apply]
  cases hreply : (question m.host).reply.bind (valueAt token) with
  | ok v =>
    rw [hreply] at hsettles
    exact ⟨hholds, hleads, hsettles⟩
  | error f =>
    rw [hreply] at hsettles
    exact ⟨hholds, hleads, hsettles⟩

end Run

/-! ## Operators -/

namespace Contract

variable {σ : Type} (c : Contract σ)

theorem settles_applyUnary (operator : Token) (v : Value) :
    c.Settles c.values (v.applyUnary operator) := by
  unfold Value.applyUnary
  split
  · exact c.plain rfl
  · exact c.plain rfl
  · split
    · exact c.plain rfl
    · exact c.script _
  · exact c.script _

theorem settles_plus (operator : Token) (v w : Value) :
    c.Settles c.values (v.plus operator w) := by
  unfold Value.plus
  split
  · exact c.plain rfl
  · exact c.plain rfl
  · exact c.plain rfl
  · exact c.plain rfl
  · exact c.script _

theorem settles_numeric (operator : Token) {f : Float → Float → Except Failure Value}
    (hf : ∀ x y, c.Settles c.values (f x y)) (v w : Value) :
    c.Settles c.values (v.numeric operator f w) := by
  unfold Value.numeric
  split
  · exact hf _ _
  · exact c.script _

theorem settles_applyBinary (operator : Token) (v w : Value) :
    c.Settles c.values (v.applyBinary operator w) := by
  have hdivide : ∀ x y, c.Settles c.values (Value.divide operator x y) := by
    intro x y
    unfold Value.divide
    split
    · exact c.script _
    · exact c.plain rfl
  unfold Value.applyBinary
  split
  · exact c.settles_plus operator v w
  · exact c.plain rfl
  · exact c.plain rfl
  · exact c.settles_numeric operator (by intro x y; exact c.plain rfl) v w
  · exact c.settles_numeric operator (by intro x y; exact c.plain rfl) v w
  · exact c.settles_numeric operator hdivide v w
  · exact c.settles_numeric operator (by intro x y; exact c.plain rfl) v w
  · exact c.settles_numeric operator (by intro x y; exact c.plain rfl) v w
  · exact c.settles_numeric operator (by intro x y; exact c.plain rfl) v w
  · exact c.settles_numeric operator (by intro x y; exact c.plain rfl) v w
  · exact c.script _

end Contract

/-! ## Trees -/

section Trees

variable {σ : Type} {r : Resolver σ} {c : Contract σ}

mutual

theorem Expr.evaluate_obeys (hr : r.Honours c) :
    (e : Expr) → (∀ x ∈ e.mentions, c.allows x) → Run.Obeys c c.values (e.evaluate r)
  | .literal value _, h => by
    rw [Expr.evaluate]
    exact Run.obeys_pure (c.literal (h _ (List.mem_singleton_self _)))
  | .grouping inner, h => by
    rw [Expr.evaluate]
    exact inner.evaluate_obeys hr h
  | .unary operator operand, h => by
    rw [Expr.evaluate]
    exact (operand.evaluate_obeys hr h).bind fun v _ =>
      Run.obeys_lift (c.settles_applyUnary operator v)
  | .binary left operator right, h => by
    rw [Expr.mentions, List.forall_mem_append] at h
    have hright := right.evaluate_obeys hr h.2
    have htruth : Run.Obeys c c.values (do return .boolean (← right.evaluate r).truthy) :=
      hright.bind fun _ _ => Run.obeys_pure (c.plain rfl)
    rw [Expr.evaluate]
    refine (left.evaluate_obeys hr h.1).bind fun v _ => ?_
    split
    · split
      · exact htruth
      · exact Run.obeys_pure (c.plain rfl)
    · split
      · exact Run.obeys_pure (c.plain rfl)
      · exact htruth
    · exact hright.bind fun w _ => Run.obeys_lift (c.settles_applyBinary operator v w)
  | .variable name, h => by
    rw [Expr.evaluate]
    exact Run.obeys_ask fun m hm => hr.lookup hm (h _ (List.mem_singleton_self _))
  | .call callee arguments, h => by
    rw [Expr.mentions, List.forall_mem_append] at h
    rw [Expr.evaluate]
    refine (evaluateAll_obeys hr arguments h.1).bind fun values hvalues => ?_
    exact Run.obeys_ask fun m hm => hr.call hm (h.2 _ (List.mem_singleton_self _)) hvalues
  | .champion declared, _ => by
    rw [Expr.evaluate]
    exact (Run.obeys_declare declared).bind fun _ _ => Run.obeys_pure (c.plain rfl)

theorem evaluateAll_obeys (hr : r.Honours c) :
    (es : List Expr) → (∀ x ∈ mentionsOfAll es, c.allows x) →
      Run.Obeys c (fun values => ∀ v ∈ values, c.values v) (evaluateAll r es)
  | [], _ => by
    rw [evaluateAll]
    exact Run.obeys_pure fun _ hv => absurd hv List.not_mem_nil
  | e :: es, h => by
    rw [mentionsOfAll, List.forall_mem_append] at h
    rw [evaluateAll]
    refine (e.evaluate_obeys hr h.1).bind fun v hv => ?_
    refine (evaluateAll_obeys hr es h.2).bind fun values hvalues => ?_
    exact Run.obeys_pure (List.forall_mem_cons.mpr ⟨hv, hvalues⟩)

end

theorem repeatWhile_obeys {test : Run σ Value} {body : Run σ Unit} (ht : Run.Obeys c c.values test)
    (hb : Run.Obeys c (fun _ => True) body) (rounds : Nat) :
    Run.Obeys c (fun _ => True) (repeatWhile test body rounds) := by
  induction rounds with
  | zero => exact fun m hm => ⟨hm, c.refl m, c.unfinished⟩
  | succ rounds ih =>
    rw [repeatWhile]
    refine ht.bind fun v _ => ?_
    split
    · exact hb.bind fun _ _ => ih
    · exact Run.obeys_pure trivial

mutual

theorem Stmt.execute_obeys (hr : r.Honours c) (rounds : Nat) :
    (s : Stmt) → (∀ x ∈ s.mentions, c.allows x) →
      Run.Obeys c (fun _ => True) (s.execute r rounds)
  | .expression value, h => by
    rw [Stmt.execute]
    exact (value.evaluate_obeys hr h).bind fun _ _ => Run.obeys_pure trivial
  | .block statements, h => by
    rw [Stmt.execute]
    exact executeAll_obeys hr rounds statements h
  | .conditional condition thenBody elseBody, h => by
    rw [Stmt.mentions, List.forall_mem_append, List.forall_mem_append] at h
    rw [Stmt.execute]
    refine (condition.evaluate_obeys hr h.1.1).bind fun v _ => ?_
    split
    · exact executeAll_obeys hr rounds thenBody h.1.2
    · exact executeElse_obeys hr rounds elseBody h.2
  | .loop condition body, h => by
    rw [Stmt.mentions, List.forall_mem_append] at h
    rw [Stmt.execute]
    exact repeatWhile_obeys (condition.evaluate_obeys hr h.1) (executeAll_obeys hr rounds body h.2)
      rounds
  | .combo actions, h => by
    rw [Stmt.execute]
    exact executeAll_obeys hr rounds actions h
  | .champion declared, _ => by
    rw [Stmt.execute]
    exact Run.obeys_declare declared

theorem executeAll_obeys (hr : r.Honours c) (rounds : Nat) :
    (ss : List Stmt) → (∀ x ∈ mentionsOfBody ss, c.allows x) →
      Run.Obeys c (fun _ => True) (executeAll r rounds ss)
  | [], _ => by
    rw [executeAll]
    exact Run.obeys_pure trivial
  | s :: ss, h => by
    rw [mentionsOfBody, List.forall_mem_append] at h
    rw [executeAll]
    exact (s.execute_obeys hr rounds h.1).bind fun _ _ => executeAll_obeys hr rounds ss h.2

theorem executeElse_obeys (hr : r.Honours c) (rounds : Nat) :
    (e : Option (List Stmt)) → (∀ x ∈ mentionsOfElse e, c.allows x) →
      Run.Obeys c (fun _ => True) (executeElse r rounds e)
  | none, _ => by
    rw [executeElse]
    exact Run.obeys_pure trivial
  | some body, h => by
    rw [executeElse]
    exact executeAll_obeys hr rounds body h

end

/-! ## Runs -/

theorem Stmt.runTop_obeys (hr : r.Honours c) (rounds : Nat) (echo : Bool) (s : Stmt)
    (h : ∀ x ∈ s.mentions, c.allows x) :
    Run.Obeys c (fun _ => True) (s.runTop r rounds echo) := by
  cases s with
  | expression value =>
    rw [Stmt.runTop]
    refine (value.evaluate_obeys hr h).bind fun v _ => ?_
    split
    · exact Run.obeys_notice rfl
    · exact Run.obeys_pure trivial
  | _ => exact Stmt.execute_obeys hr rounds _ h

section Run

variable {rounds : Nat} {echo : Bool} {s : Stmt} {ss : Program} {m m' : Machine σ}

theorem Program.run_cons_of_ok {u : Unit} (h : s.runTop r rounds echo m = .ok u m') :
    Program.run r rounds echo (s :: ss) m = Program.run r rounds echo ss m' := by
  rw [Program.run]
  simp only [h]

theorem Program.run_cons_of_script {e : RuntimeError}
    (h : s.runTop r rounds echo m = .error (.script e) m') :
    Program.run r rounds echo (s :: ss) m =
      (do return e :: (← Program.run r rounds echo ss)) (m'.emit (.failure e)) := by
  rw [Program.run]
  simp only [h]
  cases hrun : Program.run r rounds echo ss (m'.emit (.failure e)) with
  | ok errors n => rw [Run.bind_of_ok hrun]; rfl
  | error f n => rw [Run.bind_of_error hrun]

theorem Program.run_cons_of_other {f : Failure} (h : s.runTop r rounds echo m = .error f m')
    (hf : ∀ e, f ≠ .script e) : Program.run r rounds echo (s :: ss) m = .error f m' := by
  rw [Program.run]
  cases f with
  | script e => exact absurd rfl (hf e)
  | _ => simp only [h]

end Run

theorem Program.run_obeys (hr : r.Honours c) (rounds : Nat) (echo : Bool) (p : Program)
    (h : ∀ x ∈ mentionsOfBody p, c.allows x) :
    Run.Obeys c (fun _ => True) (p.run r rounds echo) := by
  induction p with
  | nil => exact Run.obeys_pure trivial
  | cons s ss ih =>
    rw [mentionsOfBody, List.forall_mem_append] at h
    intro m hm
    have hs := s.runTop_obeys hr rounds echo h.1 m hm
    cases hstep : s.runTop r rounds echo m with
    | ok u m' =>
      rw [hstep] at hs
      rw [Program.run_cons_of_ok hstep]
      exact (ih h.2 m' hs.1).of_leads hs.2.1
    | error f m' =>
      rw [hstep] at hs
      by_cases hf : ∃ e, f = .script e
      · obtain ⟨e, rfl⟩ := hf
        -- The rest runs from the machine with the report, which is one more step.
        obtain ⟨hholds, hlead⟩ := c.emit hs.1 (.failure e) rfl
        rw [Program.run_cons_of_script hstep]
        have hrest : Run.Obeys c (fun _ => True)
            (do return e :: (← Program.run r rounds echo ss)) :=
          (ih h.2).bind fun _ _ => Run.obeys_pure trivial
        exact (hrest _ hholds).of_leads (c.trans hs.2.1 hlead)
      · rw [Program.run_cons_of_other hstep fun e he => hf ⟨e, he⟩]
        exact hs

theorem runHandlers_obeys (hr : r.Honours c) (rounds : Nat) (event champion : String)
    (hs : List Handler) (h : ∀ x ∈ mentionsOfHandlers hs, c.allows x) :
    Run.Obeys c (fun _ => True) (runHandlers r rounds event champion hs) := by
  induction hs with
  | nil => exact Run.obeys_pure trivial
  | cons g gs ih =>
    rw [mentionsOfHandlers, List.forall_mem_append, Handler.mentions_eq] at h
    rw [runHandlers]
    refine (Run.obeys_notice rfl).bind fun _ _ => ?_
    exact (executeAll_obeys hr rounds g.body h.1).bind fun _ _ => ih h.2

theorem trigger_apply (r : Resolver σ) (rounds : Nat) (champion event : String) (m : Machine σ) :
    trigger r rounds champion event m =
      (match m.champions.get? champion with
        | none => do
          Run.notice (.unknownChampion champion)
          return 0
        | some d => do
          runHandlers r rounds event champion (d.handlersFor event)
          return (d.handlersFor event).length) m :=
  rfl

/-- An event runs handlers of one champion only, so only that champion's mentions count. -/
theorem trigger_keeps (hr : r.Honours c) (rounds : Nat) (champion event : String) {m : Machine σ}
    (hm : c.holds m)
    (h : ∀ d, m.champions.get? champion = some d → ∀ x ∈ d.mentions, c.allows x) :
    c.Keeps (fun _ => True) m (trigger r rounds champion event m) := by
  rw [trigger_apply]
  cases hget : m.champions.get? champion with
  | none =>
    exact ((Run.obeys_notice rfl).bind fun _ _ => Run.obeys_pure trivial) m hm
  | some d =>
    have hmentions : ∀ x ∈ mentionsOfHandlers (d.handlersFor event), c.allows x := by
      intro x hx
      exact h d hget x (d.mentions_eq ▸ mentionsOfHandlers_filter_subset _ _ hx)
    exact ((runHandlers_obeys hr rounds event champion _ hmentions).bind fun _ _ =>
      Run.obeys_pure trivial) m hm

end Trees
end RiftScript
