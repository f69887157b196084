/-
Running normal trees.

A normal tree does what the tree does that it was made from. The machines differ in one respect:
champions are kept as they were declared, so the bodies of their handlers are normal in the one
machine and need not be in the other. Making the champions of a machine normal before a run or after
it comes to the same.
-/
import RiftScript.Game.Bindings
import RiftScript.Proofs.Running.Transcript
import RiftScript.Proofs.Trees.Normal

namespace RiftScript

variable {σ : Type}

/-- The machine with its champions made normal. -/
def Machine.normalize (m : Machine σ) : Machine σ :=
  { m with champions := m.champions.normalize }

theorem Machine.normalize_declare (m : Machine σ) (d : Champion) :
    (m.declare d).normalize = m.normalize.declare d.normalize := by
  have hreplaced := m.champions.contains_normalize d.key
  simp [declare, normalize, emit, Registry.normalize_register, d.key_normalize, hreplaced]

/-! ## Steps -/

/-- The second step does on machines with normal champions what the first does. -/
def Run.Normalizes {α : Type} (x y : Run σ α) : Prop :=
  Run.Simulates .stay (fun m n => n = Machine.normalize m) Eq x y

namespace Run

variable {α β : Type}

theorem normalizes_pure (a : α) : Normalizes (σ := σ) (pure a) (pure a) :=
  simulates_pure rfl

theorem normalizes_lift (result : Except Failure α) :
    Normalizes (σ := σ) (lift result) (lift result) := by
  have h : Normalizes (σ := σ) (lift result)
      (lift (result.mapError (Failure.relocate .stay))) := simulates_lift result
  rwa [mapError_stay] at h

theorem Normalizes.bind {x y : Run σ α} {f g : α → Run σ β} (hx : Normalizes x y)
    (hf : ∀ a, Normalizes (f a) (g a)) : Normalizes (x >>= f) (y >>= g) :=
  Simulates.bind hx hf

theorem normalizes_ask (token : Token) (question : σ → Answer σ) :
    Normalizes (ask token question) (ask token question) := by
  refine simulates_ask (f := .stay) ?_
  rintro m _ rfl
  exact ⟨(mapError_stay _).symm, rfl⟩

theorem normalizes_declare (d : Champion) :
    Normalizes (σ := σ) (declare d) (declare d.normalize) := by
  rintro m _ rfl
  exact .ok rfl (m.normalize_declare d).symm

end Run

/-! ## Trees -/

/-- A statement does what the statements do that take its place in a body. -/
theorem executeAll_spliced (r : Resolver σ) (rounds : Nat) (s : Stmt) :
    executeAll r rounds s.spliced = s.execute r rounds := by
  have halone : executeAll r rounds [s] = s.execute r rounds := by
    rw [executeAll]
    exact bind_pure_unit
  cases s with
  | block statements => rw [Stmt.spliced, Stmt.execute]
  | _ => exact halone

mutual

theorem Expr.evaluate_normalizes (r : Resolver σ) :
    (e : Expr) → Run.Normalizes (e.evaluate r) (e.normalize.evaluate r)
  | .literal value _ => by
    rw [Expr.normalize, Expr.evaluate]
    exact Run.normalizes_pure value
  | .grouping inner => by
    rw [Expr.normalize, Expr.evaluate]
    exact inner.evaluate_normalizes r
  | .unary operator operand => by
    rw [Expr.normalize, Expr.evaluate, Expr.evaluate]
    exact (operand.evaluate_normalizes r).bind fun v => Run.normalizes_lift _
  | .binary left operator right => by
    have hleft := left.evaluate_normalizes r
    have hright := right.evaluate_normalizes r
    have htruth : Run.Normalizes (do return Value.boolean (← right.evaluate r).truthy)
        (do return Value.boolean (← right.normalize.evaluate r).truthy) :=
      hright.bind fun _ => Run.normalizes_pure _
    rw [Expr.normalize]
    by_cases hand : operator.kind = .andWord
    · rw [Expr.evaluate_and hand, Expr.evaluate_and hand]
      refine hleft.bind fun v => ?_
      split
      · exact htruth
      · exact Run.normalizes_pure _
    · by_cases hor : operator.kind = .orWord
      · rw [Expr.evaluate_or hor, Expr.evaluate_or hor]
        refine hleft.bind fun v => ?_
        split
        · exact Run.normalizes_pure _
        · exact htruth
      · rw [Expr.evaluate_strict hand hor, Expr.evaluate_strict hand hor]
        exact hleft.bind fun v => hright.bind fun w => Run.normalizes_lift _
  | .variable name => by
    rw [Expr.normalize, Expr.evaluate]
    exact Run.normalizes_ask name _
  | .call callee arguments => by
    rw [Expr.normalize, Expr.evaluate, Expr.evaluate]
    exact (evaluateAll_normalizes r arguments).bind fun values => Run.normalizes_ask callee _
  | .champion declared => by
    rw [Expr.normalize, Expr.evaluate, Expr.evaluate]
    exact (Run.normalizes_declare declared).bind fun _ => Run.normalizes_pure _

theorem evaluateAll_normalizes (r : Resolver σ) :
    (es : List Expr) → Run.Normalizes (evaluateAll r es) (evaluateAll r (normalizeAll es))
  | [] => by
    rw [normalizeAll, evaluateAll]
    exact Run.normalizes_pure _
  | e :: es => by
    rw [normalizeAll, evaluateAll, evaluateAll]
    refine (e.evaluate_normalizes r).bind fun v => ?_
    exact (evaluateAll_normalizes r es).bind fun _ => Run.normalizes_pure _

end

mutual

theorem Stmt.execute_normalizes (r : Resolver σ) (rounds : Nat) :
    (s : Stmt) → Run.Normalizes (s.execute r rounds) (s.normalize.execute r rounds)
  | .expression value => by
    rw [Stmt.normalize, Stmt.execute, Stmt.execute]
    exact (value.evaluate_normalizes r).bind fun _ => Run.normalizes_pure _
  | .block statements => by
    rw [Stmt.normalize, Stmt.execute, Stmt.execute]
    exact executeAll_normalizes r rounds statements
  | .conditional condition thenBody elseBody => by
    rw [Stmt.normalize, Stmt.execute, Stmt.execute]
    refine (condition.evaluate_normalizes r).bind fun v => ?_
    split
    · exact executeAll_normalizes r rounds thenBody
    · exact executeElse_normalizes r rounds elseBody
  | .loop condition body => by
    rw [Stmt.normalize, Stmt.execute, Stmt.execute]
    exact repeatWhile_simulates (condition.evaluate_normalizes r)
      (executeAll_normalizes r rounds body) rounds
  | .combo actions => by
    rw [Stmt.normalize, Stmt.execute, Stmt.execute]
    exact executeAll_normalizes r rounds actions
  | .champion declared => by
    rw [Stmt.normalize, Stmt.execute, Stmt.execute]
    exact Run.normalizes_declare declared

theorem executeAll_normalizes (r : Resolver σ) (rounds : Nat) :
    (ss : List Stmt) →
      Run.Normalizes (executeAll r rounds ss) (executeAll r rounds (normalizeBody ss))
  | [] => by
    rw [normalizeBody, executeAll]
    exact Run.normalizes_pure _
  | s :: ss => by
    rw [normalizeBody, executeAll_append, executeAll_spliced, executeAll]
    exact (s.execute_normalizes r rounds).bind fun _ => executeAll_normalizes r rounds ss

theorem executeElse_normalizes (r : Resolver σ) (rounds : Nat) :
    (e : Option (List Stmt)) →
      Run.Normalizes (executeElse r rounds e) (executeElse r rounds (normalizeElse e))
  | none => by
    rw [normalizeElse, executeElse]
    exact Run.normalizes_pure _
  | some body => by
    rw [normalizeElse, executeElse, executeElse]
    exact executeAll_normalizes r rounds body

end

theorem Stmt.runTop_normalizes (r : Resolver σ) (rounds : Nat) (echo : Bool) (s : Stmt) :
    Run.Normalizes (s.runTop r rounds echo) (s.normalize.runTop r rounds echo) := by
  cases s with
  | expression value =>
    rw [Stmt.normalize, Stmt.runTop, Stmt.runTop]
    refine (value.evaluate_normalizes r).bind fun v => ?_
    split
    · rintro m _ rfl
      exact .ok rfl rfl
    · exact Run.normalizes_pure _
  | _ => exact Stmt.execute_normalizes r rounds _

/-! ## Runs and events -/

/-- A normal program on normal champions ends as the program does that it was made from. -/
theorem Program.run_normalize (r : Resolver σ) (rounds : Nat) (echo : Bool) (p : Program)
    (m : Machine σ) :
    p.normalize.run r rounds echo m.normalize
      = Run.onMachine Machine.normalize (p.run r rounds echo m) := by
  have hrun := Program.run_simulates_map (Stmt.runTop_normalizes r rounds echo) (by
    rintro m _ rfl e
    rw [e.relocate_stay]
    rfl) p
  exact (hrun.mono Program.eq_of_stay).eq_onMachine m

theorem trigger_normalize (r : Resolver σ) (rounds : Nat) (champion event : String)
    (m : Machine σ) :
    trigger r rounds champion event m.normalize
      = Run.onMachine Machine.normalize (trigger r rounds champion event m) := by
  refine Run.Simulates.eq_onMachine (trigger_simulates ?_
    (fun c => c.handlersFor_normalize event) ?_ ?_ ?_) m
  · rintro m _ rfl
    exact m.champions.get?_normalize champion
  · intro h
    have hbody := executeAll_normalizes r rounds h.body
    cases h
    rw [Handler.normalize]
    exact hbody
  · rintro m _ rfl
    rfl
  · rintro m _ rfl
    rfl

theorem Program.normalize_normalize (p : Program) : p.normalize.normalize = p.normalize := by
  rw [normalize, normalize, List.map_map]
  refine List.map_congr_left fun s _ => ?_
  rw [Function.comp_apply, s.normalize.normalize_of_isNormal s.isNormal_normalize]

theorem Machine.normalize_normalize (m : Machine σ) : m.normalize.normalize = m.normalize := by
  have hchampions : m.champions.normalize.normalize = m.champions.normalize := by
    rw [Registry.normalize, Registry.normalize, List.map_map]
    exact congrArg Registry.mk (List.map_congr_left fun c _ => c.normalize_normalize)
  rw [normalize, normalize, hchampions]

section Alike

variable {m n : Machine σ}

/-- Machines that differ only in groupings and nested blocks are not told apart by a program and
its normal form. -/
theorem Program.run_alike (h : m.normalize = n.normalize) (r : Resolver σ) (rounds : Nat)
    (echo : Bool) (p : Program) :
    Run.onMachine Machine.normalize (p.normalize.run r rounds echo n)
      = Run.onMachine Machine.normalize (p.run r rounds echo m) := by
  rw [← Program.run_normalize, ← Program.run_normalize, p.normalize_normalize, h]

theorem trigger_alike (h : m.normalize = n.normalize) (r : Resolver σ) (rounds : Nat)
    (champion event : String) :
    Run.onMachine Machine.normalize (trigger r rounds champion event n)
      = Run.onMachine Machine.normalize (trigger r rounds champion event m) := by
  rw [← trigger_normalize, ← trigger_normalize, h]

/-- What has passed is kept by the machine, so it is the same for outcomes that are alike. -/
theorem record_eq_of_alike {α : Type} {x y : EStateM.Result Failure (Machine (Recorded σ)) α}
    (h : Run.onMachine Machine.normalize x = Run.onMachine Machine.normalize y) :
    (Run.machine x).host.record = (Run.machine y).host.record := by
  have hmachine := congrArg Run.machine h
  rw [Run.machine_onMachine, Run.machine_onMachine] at hmachine
  show (Run.machine x).normalize.host.record = (Run.machine y).normalize.host.record
  rw [hmachine]

/-- Groupings and nested blocks have no meaning of their own. A program and its normal form end with
the same errors or the same failure, the same notices and the same state of the host, after the same
questions and answers, and with champions that have the same normal form. So does an event, on
machines whose champions differ in nothing else. -/
theorem normalize_keeps_meaning (r : Resolver σ) (rounds : Nat) (h : m.normalize = n.normalize) :
    (∀ (echo : Bool) (p : Program), p.normalize.IsNormal ∧
      Run.onMachine Machine.normalize (p.normalize.run r rounds echo n)
        = Run.onMachine Machine.normalize (p.run r rounds echo m) ∧
      p.normalize.interactions r rounds echo n = p.interactions r rounds echo m) ∧
    ∀ champion event : String,
      Run.onMachine Machine.normalize (trigger r rounds champion event n)
        = Run.onMachine Machine.normalize (trigger r rounds champion event m) ∧
      triggerInteractions r rounds champion event n
        = triggerInteractions r rounds champion event m := by
  have hrecording : m.recording.normalize = n.recording.normalize :=
    congrArg Machine.recording h
  refine ⟨fun echo p => ⟨p.isNormal_normalize, p.run_alike h r rounds echo, ?_⟩,
    fun champion event => ⟨trigger_alike h r rounds champion event, ?_⟩⟩
  · exact record_eq_of_alike (p.run_alike hrecording r.recorded rounds echo)
  · exact record_eq_of_alike (trigger_alike hrecording r.recorded rounds champion event)

end Alike

/-- An error in the middle of blocks, and a champion that does something in a block. -/
@[irreducible] def nested : Program :=
  (Script.readProgram ""
    ("combo { { (attack(nearestEnemy())); } { 1 / (0); } ping() }"
      ++ "champion Annie { onAttack { { moveTo((river)); } } }")).result.getD []

/-- The machine that the script leaves. -/
def nestedMachine : Machine Game :=
  Run.machine (nested.run Game.resolver 1 true (.start {}))

theorem normalize_keeps_meaning_nested_blocks :
    nestedMachine.normalize = nestedMachine.normalize.normalize ∧
      nestedMachine.lines = ["> attack(nil)", "[line 1] Runtime error at '/': Division by zero.",
        "Champion registered: Annie"] ∧
      nested.normalize.interactions Game.resolver 1 true nestedMachine.normalize
        = nested.interactions Game.resolver 1 true nestedMachine ∧
      triggerInteractions Game.resolver 1 "Annie" "onAttack" nestedMachine.normalize
        = triggerInteractions Game.resolver 1 "Annie" "onAttack" nestedMachine := by
  have halike := nestedMachine.normalize_normalize.symm
  obtain ⟨hrun, htrigger⟩ := normalize_keeps_meaning Game.resolver 1 halike
  exact ⟨halike, by decide +kernel, (hrun true nested).2.2, (htrigger "Annie" "onAttack").2⟩

end RiftScript
