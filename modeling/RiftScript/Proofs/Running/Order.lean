/-
The order in which a run asks its host.

A run puts a question to its host for every name and every call that it comes to. `names` lists the
tokens of a tree in the order in which they are come to if none is passed over: arguments before
their call, left before right, conditions before bodies. What champions do about events comes later
and is no part of it. A run without loops asks for some of the listed tokens, in this order and for
each at most once. If nothing can be passed over and nothing fails, it asks for all of them.

The questions of a run are told by a host that keeps a log of them and is otherwise the host of the
run.
-/
import RiftScript.Game.Bindings
import RiftScript.Proofs.Running.Simulation

namespace RiftScript

/-! ## Names in order -/

mutual

def Expr.names : Expr → List Token
  | .literal _ _ => []
  | .grouping inner => inner.names
  | .unary _ operand => operand.names
  | .binary left _ right => left.names ++ right.names
  | .variable name => [name]
  | .call callee arguments => namesOfAll arguments ++ [callee]
  | .champion _ => []

def namesOfAll : List Expr → List Token
  | [] => []
  | e :: es => e.names ++ namesOfAll es

end

mutual

def Stmt.names : Stmt → List Token
  | .expression value => value.names
  | .block statements => namesOfBody statements
  | .conditional condition thenBody elseBody =>
    condition.names ++ (namesOfBody thenBody ++ namesOfElse elseBody)
  | .loop condition body => condition.names ++ namesOfBody body
  | .combo actions => namesOfBody actions
  | .champion _ => []

def namesOfBody : List Stmt → List Token
  | [] => []
  | s :: ss => s.names ++ namesOfBody ss

def namesOfElse : Option (List Stmt) → List Token
  | none => []
  | some body => namesOfBody body

end

mutual

/-- No operand can be passed over. -/
def Expr.isStrict : Expr → Bool
  | .literal _ _ | .variable _ | .champion _ => true
  | .grouping inner => inner.isStrict
  | .unary _ operand => operand.isStrict
  | .binary left operator right =>
    operator.kind != .andWord && operator.kind != .orWord && left.isStrict && right.isStrict
  | .call _ arguments => allStrict arguments

def allStrict : List Expr → Bool
  | [] => true
  | e :: es => e.isStrict && allStrict es

end

mutual

/-- No loop, except in what champions do about events. -/
def Stmt.isLoopFree : Stmt → Bool
  | .expression _ | .champion _ => true
  | .block statements => bodyLoopFree statements
  | .conditional _ thenBody elseBody => bodyLoopFree thenBody && elseLoopFree elseBody
  | .loop _ _ => false
  | .combo actions => bodyLoopFree actions

def bodyLoopFree : List Stmt → Bool
  | [] => true
  | s :: ss => s.isLoopFree && bodyLoopFree ss

def elseLoopFree : Option (List Stmt) → Bool
  | none => true
  | some body => bodyLoopFree body

end

mutual

/-- No conditional and no logical operator, except in what champions do about events. -/
def Stmt.isBranchFree : Stmt → Bool
  | .expression value => value.isStrict
  | .champion _ => true
  | .block statements => bodyBranchFree statements
  | .conditional _ _ _ => false
  | .loop condition body => condition.isStrict && bodyBranchFree body
  | .combo actions => bodyBranchFree actions

def bodyBranchFree : List Stmt → Bool
  | [] => true
  | s :: ss => s.isBranchFree && bodyBranchFree ss

end

/-! ## Hosts with a log -/

/-- The state of a host, and the tokens on behalf of which it has been asked. -/
structure Logged (σ : Type) where
  host : σ
  asked : List Token

variable {σ : Type}

/-- Take a question down with the answer to it. -/
def Answer.logged (a : Answer σ) (asked : List Token) (token : Token) : Answer (Logged σ) :=
  ⟨a.reply, ⟨a.host, asked ++ [token]⟩, a.notices⟩

/-- The same host, with a log. -/
def Resolver.logged (r : Resolver σ) : Resolver (Logged σ) where
  lookup name l := (r.lookup name l.host).logged l.asked name
  call callee arguments l := (r.call callee arguments l.host).logged l.asked callee

namespace Machine

/-- The machine with an empty log. -/
def logging (m : Machine σ) : Machine (Logged σ) :=
  ⟨m.champions, ⟨m.host, []⟩, m.notices⟩

/-- The machine without its log. -/
def forget (m : Machine (Logged σ)) : Machine σ :=
  ⟨m.champions, m.host.host, m.notices⟩

end Machine

def Run.forget {α : Type} :
    EStateM.Result Failure (Machine (Logged σ)) α → EStateM.Result Failure (Machine σ) α
  | .ok a m => .ok a m.forget
  | .error failure m => .error failure m.forget

/-- The tokens on behalf of which a run asks its host, in order. -/
def Program.asked (r : Resolver σ) (rounds : Nat) (echo : Bool) (p : Program) (m : Machine σ) :
    List Token :=
  (Run.machine (p.run r.logged rounds echo m.logging)).host.asked

theorem logged_simulates (r : Resolver σ) :
    Resolver.Simulates .stay (fun m n => n = Machine.forget m) r.logged r where
  declare := by
    rintro m _ rfl d
    rw [d.relocate_stay]
    rfl
  lookup := by
    rintro name m _ rfl
    exact ⟨(mapError_stay (r.lookup name m.host.host).reply).symm, rfl⟩
  call := by
    rintro callee arguments m _ rfl
    exact ⟨(mapError_stay (r.call callee arguments m.host.host).reply).symm, rfl⟩

theorem reports_forget : Reports .stay fun m n => n = Machine.forget (σ := σ) m where
  result := by
    rintro m _ rfl v
    rfl
  failure := by
    rintro m _ rfl e
    rw [e.relocate_stay]
    rfl

/-- A log changes nothing about a run. -/
theorem forget_run (r : Resolver σ) (rounds : Nat) (echo : Bool) (p : Program)
    (m : Machine (Logged σ)) :
    Run.forget (p.run r.logged rounds echo m) = p.run r rounds echo m.forget := by
  have hrun := p.run_simulates (logged_simulates r) reports_forget rounds echo m _ rfl
  rw [relocateBody_stay] at hrun
  generalize p.run r.logged rounds echo m = first, p.run r rounds echo m.forget = second at hrun ⊢
  cases hrun with
  | @ok errors _ m' _ herrors hm =>
    have hsame : errors.map (RuntimeError.relocate .stay) = errors := by
      rw [funext RuntimeError.relocate_stay]
      exact errors.map_id
    rw [herrors, hm, hsame]
    rfl
  | @error failure _ m' _ hfailure hm =>
    rw [hfailure, hm, failure.relocate_stay]
    rfl

/-! ## Steps -/

namespace Run

variable {α β : Type}

/-- A step asks on behalf of some of the tokens, in order. If it is to ask on behalf of all of them,
then it does unless it fails. -/
def AsksFor (all : Prop) (names : List Token) (x : Run (Logged σ) α) : Prop :=
  ∀ m, ∃ asked, (machine (x m)).host.asked = m.host.asked ++ asked ∧ asked.Sublist names ∧
    (all → ∀ a n, x m = .ok a n → asked = names)

variable {all : Prop} {xs ys : List Token}

theorem asksFor_nil {x : Run (Logged σ) α} (h : ∀ m, (machine (x m)).host = m.host) :
    AsksFor all [] x := by
  intro m
  refine ⟨[], ?_, List.Sublist.refl [], fun _ _ _ _ => rfl⟩
  rw [h m, List.append_nil]

theorem asksFor_pure {a : α} : AsksFor (σ := σ) all [] (pure a) :=
  asksFor_nil fun _ => rfl

theorem asksFor_lift {result : Except Failure α} : AsksFor (σ := σ) all [] (lift result) := by
  refine asksFor_nil fun m => ?_
  cases result <;> rfl

theorem asksFor_ask {token : Token} {question : Logged σ → Answer (Logged σ)}
    (h : ∀ l, (question l).host.asked = l.asked ++ [token]) :
    AsksFor all [token] (ask token question) := by
  intro m
  refine ⟨[token], ?_, List.Sublist.refl _, fun _ _ _ _ => rfl⟩
  rw [ask_apply, ← h m.host]
  cases (question m.host).reply.bind (valueAt token) <;> rfl

/-- Tokens may be passed over where not all have to be asked for. -/
theorem AsksFor.mono {x : Run (Logged σ) α} (h : AsksFor all xs x) (hsub : xs.Sublist ys)
    (hall : ¬ all) : AsksFor all ys x := by
  intro m
  obtain ⟨asked, hasked, hxs, _⟩ := h m
  exact ⟨asked, hasked, hxs.trans hsub, fun h => absurd h hall⟩

theorem AsksFor.bind {x : Run (Logged σ) α} {f : α → Run (Logged σ) β} (hx : AsksFor all xs x)
    (hf : ∀ a, AsksFor all ys (f a)) : AsksFor all (xs ++ ys) (x >>= f) := by
  intro m
  obtain ⟨asked, hasked, hxs, hexact⟩ := hx m
  cases hm : x m with
  | ok a n =>
    obtain ⟨asked', hasked', hys, hexact'⟩ := hf a n
    rw [hm] at hasked hexact
    rw [bind_of_ok hm]
    refine ⟨asked ++ asked', ?_, hxs.append hys, fun h b n' hok => ?_⟩
    · rw [hasked', show n.host.asked = m.host.asked ++ asked from hasked, List.append_assoc]
    · rw [hexact h a n rfl, hexact' h b n' hok]
  | error failure n =>
    rw [hm] at hasked
    rw [bind_of_error hm]
    exact ⟨asked, hasked, hxs.trans (List.sublist_append_left xs ys), fun _ _ _ hok => by cases hok⟩

theorem AsksFor.map {x : Run (Logged σ) α} {f : α → Run (Logged σ) β} (hx : AsksFor all xs x)
    (hf : ∀ a, AsksFor all [] (f a)) : AsksFor all xs (x >>= f) := by
  rw [← List.append_nil xs]
  exact hx.bind hf

end Run

/-! ## Trees -/

section Trees

variable {r : Resolver σ} {all : Prop}

mutual

theorem Expr.evaluate_asksFor : (e : Expr) → (all → e.isStrict = true) →
    Run.AsksFor all e.names (e.evaluate r.logged)
  | .literal value _, _ => by
    rw [Expr.evaluate, Expr.names]
    exact Run.asksFor_pure
  | .grouping inner, h => by
    rw [Expr.evaluate, Expr.names]
    exact inner.evaluate_asksFor h
  | .unary operator operand, h => by
    rw [Expr.evaluate, Expr.names]
    exact (operand.evaluate_asksFor h).map fun _ => Run.asksFor_lift
  | .binary left operator right, h => by
    simp only [Expr.isStrict, Bool.and_eq_true, bne_iff_ne] at h
    have hright := right.evaluate_asksFor fun hall => (h hall).2
    have htruth : Run.AsksFor all right.names
        (do return Value.boolean (← right.evaluate r.logged).truthy) :=
      hright.map fun _ => Run.asksFor_pure
    have hnone : ¬ all → ∀ v : Value, Run.AsksFor (σ := σ) all right.names (pure v) :=
      fun hall v => Run.asksFor_pure.mono (List.nil_sublist _) hall
    rw [Expr.evaluate, Expr.names]
    refine (left.evaluate_asksFor fun hall => (h hall).1.2).bind fun v => ?_
    -- Only `and` and `or` pass over their right operand, and a strict tree has neither.
    split
    · next hk =>
      split
      · exact htruth
      · exact hnone (fun hall => (h hall).1.1.1 hk) _
    · next hk =>
      split
      · exact hnone (fun hall => (h hall).1.1.2 hk) _
      · exact htruth
    · exact hright.map fun _ => Run.asksFor_lift
  | .variable name, _ => by
    rw [Expr.evaluate, Expr.names]
    exact Run.asksFor_ask fun _ => rfl
  | .call callee arguments, h => by
    rw [Expr.evaluate, Expr.names]
    exact (evaluateAll_asksFor arguments h).bind fun _ => Run.asksFor_ask fun _ => rfl
  | .champion declared, _ => by
    rw [Expr.evaluate, Expr.names]
    exact Run.asksFor_nil fun _ => rfl

theorem evaluateAll_asksFor : (es : List Expr) → (all → allStrict es = true) →
    Run.AsksFor all (namesOfAll es) (evaluateAll r.logged es)
  | [], _ => by
    rw [evaluateAll, namesOfAll]
    exact Run.asksFor_pure
  | e :: es, h => by
    simp only [allStrict, Bool.and_eq_true] at h
    rw [evaluateAll, namesOfAll]
    refine (e.evaluate_asksFor fun hall => (h hall).1).bind fun v => ?_
    exact (evaluateAll_asksFor es fun hall => (h hall).2).map fun _ => Run.asksFor_pure

end

mutual

theorem Stmt.execute_asksFor (rounds : Nat) : (s : Stmt) → s.isLoopFree = true →
    (all → s.isBranchFree = true) → Run.AsksFor all s.names (s.execute r.logged rounds)
  | .expression value, _, h => by
    rw [Stmt.execute, Stmt.names]
    exact (value.evaluate_asksFor h).map fun _ => Run.asksFor_pure
  | .block statements, hloops, h => by
    rw [Stmt.execute, Stmt.names]
    exact executeAll_asksFor rounds statements hloops h
  | .conditional condition thenBody elseBody, hloops, h => by
    have hall : ¬ all := fun hall => Bool.false_ne_true (h hall)
    rw [Stmt.isLoopFree, Bool.and_eq_true] at hloops
    have hthen : Run.AsksFor all (namesOfBody thenBody) (executeAll r.logged rounds thenBody) :=
      executeAll_asksFor rounds thenBody hloops.1 fun h => absurd h hall
    have helse : Run.AsksFor all (namesOfElse elseBody) (executeElse r.logged rounds elseBody) :=
      executeElse_asksFor rounds elseBody hloops.2 hall
    rw [Stmt.execute, Stmt.names]
    refine (condition.evaluate_asksFor fun h => absurd h hall).bind fun v => ?_
    split
    · exact hthen.mono (List.sublist_append_left _ _) hall
    · exact helse.mono (List.sublist_append_right _ _) hall
  | .loop condition body, hloops, _ => by cases hloops
  | .combo actions, hloops, h => by
    rw [Stmt.execute, Stmt.names]
    exact executeAll_asksFor rounds actions hloops h
  | .champion declared, _, _ => by
    rw [Stmt.execute, Stmt.names]
    exact Run.asksFor_nil fun _ => rfl

theorem executeAll_asksFor (rounds : Nat) : (ss : List Stmt) → bodyLoopFree ss = true →
    (all → bodyBranchFree ss = true) →
    Run.AsksFor all (namesOfBody ss) (executeAll r.logged rounds ss)
  | [], _, _ => by
    rw [executeAll, namesOfBody]
    exact Run.asksFor_pure
  | s :: ss, hloops, h => by
    simp only [bodyBranchFree, bodyLoopFree, Bool.and_eq_true] at h hloops
    rw [executeAll, namesOfBody]
    refine (s.execute_asksFor rounds hloops.1 fun hall => (h hall).1).bind fun _ => ?_
    exact executeAll_asksFor rounds ss hloops.2 fun hall => (h hall).2

theorem executeElse_asksFor (rounds : Nat) : (e : Option (List Stmt)) → elseLoopFree e = true →
    ¬ all → Run.AsksFor all (namesOfElse e) (executeElse r.logged rounds e)
  | none, _, _ => by
    rw [executeElse, namesOfElse]
    exact Run.asksFor_pure
  | some body, hloops, hall => by
    rw [executeElse, namesOfElse]
    exact executeAll_asksFor rounds body hloops fun h => absurd h hall

end

/-! ## Runs -/

theorem Stmt.runTop_asksFor (rounds : Nat) (echo : Bool) (s : Stmt) (hloops : s.isLoopFree = true)
    (h : all → s.isBranchFree = true) :
    Run.AsksFor all s.names (s.runTop r.logged rounds echo) := by
  cases s with
  | expression value =>
    rw [Stmt.runTop, Stmt.names]
    refine (value.evaluate_asksFor h).map fun v => ?_
    split
    · exact Run.asksFor_nil fun _ => rfl
    · exact Run.asksFor_pure
  | _ => exact Stmt.execute_asksFor (r := r) rounds _ hloops h

theorem Program.run_asks (rounds : Nat) (echo : Bool) (p : Program) (hloops : bodyLoopFree p = true)
    (h : all → bodyBranchFree p = true) (m : Machine (Logged σ)) :
    ∃ asked, (Run.machine (p.run r.logged rounds echo m)).host.asked = m.host.asked ++ asked ∧
      asked.Sublist (namesOfBody p) ∧
      (all → ∀ n, p.run r.logged rounds echo m = .ok [] n → asked = namesOfBody p) := by
  induction p generalizing m with
  | nil => exact ⟨[], (List.append_nil _).symm, List.Sublist.refl [], fun _ _ _ => rfl⟩
  | cons s ss ih =>
    simp only [bodyBranchFree, bodyLoopFree, Bool.and_eq_true] at h hloops
    rw [namesOfBody]
    obtain ⟨asked, hasked, hnames, hexact⟩ :=
      s.runTop_asksFor (r := r) rounds echo hloops.1 (fun hall => (h hall).1) m
    cases hs : s.runTop r.logged rounds echo m with
    | ok u n =>
      rw [hs] at hasked hexact
      obtain ⟨asked', hasked', hnames', hexact'⟩ := ih hloops.2 (fun hall => (h hall).2) n
      rw [Program.run_cons_of_ok hs]
      refine ⟨asked ++ asked', ?_, hnames.append hnames', fun hall n' hrun => ?_⟩
      · rw [hasked', show n.host.asked = m.host.asked ++ asked from hasked, List.append_assoc]
      · rw [hexact hall u n rfl, hexact' hall n' hrun]
    | error failure n =>
      rw [hs] at hasked
      by_cases hfailure : ∃ e, failure = .script e
      · obtain ⟨e, rfl⟩ := hfailure
        obtain ⟨asked', hasked', hnames', _⟩ :=
          ih hloops.2 (fun hall => (h hall).2) (n.emit (.failure e))
        rw [Program.run_cons_of_script hs]
        refine ⟨asked ++ asked', ?_, hnames.append hnames', fun _ n' hrun => ?_⟩
        · have hemit : (n.emit (.failure e)).host.asked = m.host.asked ++ asked := hasked
          rw [Run.machine_map, hasked', hemit, List.append_assoc]
        · -- The error of this statement is given back, so the list is not empty.
          cases hss : Program.run r.logged rounds echo ss (n.emit (.failure e)) with
          | ok errors o =>
            rw [Run.bind_of_ok hss] at hrun
            cases hrun
          | error failure o =>
            rw [Run.bind_of_error hss] at hrun
            cases hrun
      · rw [Program.run_cons_of_other hs fun e he => hfailure ⟨e, he⟩]
        exact ⟨asked, hasked, hnames.trans (List.sublist_append_left _ _),
          fun _ _ hrun => by cases hrun⟩

end Trees

/-- Without loops a run asks its host about names and calls in their order, and about none of them
twice. It asks about all of them if nothing can be passed over and it gives back no errors. -/
theorem run_asks_in_order (r : Resolver σ) (rounds : Nat) (echo : Bool) (p : Program)
    (m : Machine σ) (hloops : bodyLoopFree p = true) :
    Run.forget (p.run r.logged rounds echo m.logging) = p.run r rounds echo m ∧
      (p.asked r rounds echo m).Sublist (namesOfBody p) ∧
      (bodyBranchFree p = true → ∀ n, p.run r rounds echo m = .ok [] n →
        p.asked r rounds echo m = namesOfBody p) := by
  have hforget := forget_run r rounds echo p m.logging
  obtain ⟨asked, hasked, hsub, hexact⟩ :=
    p.run_asks (r := r) rounds echo hloops (id : bodyBranchFree p = true → _) m.logging
  have hlog : p.asked r rounds echo m = asked := hasked
  rw [hlog]
  refine ⟨hforget, hsub, fun hbranches n hrun => ?_⟩
  rw [show m.logging.forget = m from rfl, hrun] at hforget
  cases hlogged : p.run r.logged rounds echo m.logging with
  | ok errors n' =>
    rw [hlogged] at hforget hexact
    obtain ⟨rfl, _⟩ : errors = [] ∧ n'.forget = n := by
      injection hforget with herrors hn
      exact ⟨herrors, hn⟩
    exact hexact hbranches n' rfl
  | error failure n' =>
    rw [hlogged] at hforget
    cases hforget

/-- Two actions, the first on what a query finds. -/
@[irreducible] def sortie : Program :=
  (Script.readProgram "" "attack(nearestEnemy()); moveTo(river)").result.getD []

def endsWithoutErrors : EStateM.Result Failure (Machine Game) (List RuntimeError) → Bool
  | .ok [] _ => true
  | _ => false

theorem run_asks_in_order_query_in_action :
    (namesOfBody sortie).map Token.lexeme = ["nearestEnemy", "attack", "river", "moveTo"] ∧
      sortie.asked Game.resolver 0 false (.start {}) = namesOfBody sortie := by
  have hloops : bodyLoopFree sortie = true := by decide +kernel
  have hbranches : bodyBranchFree sortie = true := by decide +kernel
  have hok : endsWithoutErrors (sortie.run Game.resolver 0 false (.start {})) = true := by
    decide +kernel
  refine ⟨by decide +kernel, ?_⟩
  obtain ⟨_, _, hexact⟩ :=
    run_asks_in_order Game.resolver 0 false sortie (.start {}) hloops
  rw [endsWithoutErrors.eq_def] at hok
  split at hok
  · next n hrun => exact hexact hbranches n hrun
  · cases hok

end RiftScript
