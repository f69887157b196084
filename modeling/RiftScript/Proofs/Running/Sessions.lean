/-
Sessions and the champions they leave.

A session is any sequence of calls on one machine: programs that are run, statements and expressions
on their own, events, and fresh starts for the champions. A call that fails leaves the machine as it
was when it failed, and the session goes on from there. Whatever happens in it, the champions that
are known are those of the declarations since the last fresh start.
-/
import RiftScript.Eval.Bindings
import RiftScript.Proofs.Game.Effects
import RiftScript.Proofs.Running.Declarations

namespace RiftScript
namespace Session

variable {σ : Type}

inductive Call where
  | run (echo : Bool) (p : Program)
  | execute (s : Stmt)
  | evaluate (e : Expr)
  | trigger (champion event : String)
  /-- Forget all champions. -/
  | clear

namespace Call

/-- The machine after a call, whatever came of it. -/
def perform (r : Resolver σ) (rounds : Nat) (m : Machine σ) : Call → Machine σ
  | run echo p => Run.machine (p.run r rounds echo m)
  | execute s => Run.machine (s.execute r rounds m)
  | evaluate e => Run.machine (e.evaluate r m)
  | trigger champion event => Run.machine (RiftScript.trigger r rounds champion event m)
  | clear => { m with champions := .empty }

/-- The declarations that a call executes, in order. -/
def declared (r : Resolver σ) (rounds : Nat) (m : Machine σ) : Call → List Champion
  | run echo p => p.declared r rounds echo m
  | execute s => s.declared r rounds m
  | evaluate e => e.declared r m
  | trigger champion event => declaredByTrigger r rounds champion event m
  | clear => []

/-- What is left of the declarations before a call. -/
def kept (declared : List Champion) : Call → List Champion
  | clear => []
  | _ => declared

/-- The declarations that a call has before it. Those in a handler are not among them, unless the
call is the event that the handler is for. -/
def declarations (champions : Registry) : Call → List Champion
  | run _ p => declarationsOfBody p
  | execute s => s.declarations
  | evaluate e => e.declarations
  | trigger champion event =>
    declarationsOfHandlers ((champions.get? champion).elim [] (·.handlersFor event))
  | clear => []

theorem perform_grows {discreet : Prop} {r : Resolver σ} (hr : discreet → r.Discreet) (rounds : Nat)
    (m : Machine σ) {call : Call} (hcall : call ≠ clear) :
    m.Grows discreet (call.declared r rounds m) (call.perform r rounds m) := by
  cases call with
  | run echo p => exact (p.run_declares hr rounds echo).grows m
  | execute s => exact (s.execute_declares hr rounds).grows m
  | evaluate e => exact (e.evaluate_declares hr).grows m
  | trigger champion event => exact trigger_declares hr rounds champion event m
  | clear => exact absurd rfl hcall

/-- A call executes only declarations that it has before it. -/
theorem declared_subset (r : Resolver σ) (rounds : Nat) (m : Machine σ) (call : Call) :
    call.declared r rounds m ⊆ call.declarations m.champions := by
  have hr : False → r.Discreet := False.elim
  cases call with
  | run echo p => exact (p.run_declares hr rounds echo).within m
  | execute s => exact (s.execute_declares hr rounds).within m
  | evaluate e => exact (e.evaluate_declares hr).within m
  | trigger champion event =>
    rw [declared, declarations, declaredByTrigger]
    cases m.champions.get? champion with
    | none => exact List.nil_subset _
    | some c => exact (runHandlers_declares hr rounds event champion _).within m
  | clear => exact List.nil_subset _

end Call

/-- How far a session has come. -/
structure History (σ : Type) where
  machine : Machine σ
  /-- The declarations that were executed, in order. -/
  declared : List Champion
  /-- Those of them since the champions were last forgotten. -/
  current : List Champion

namespace History

def start (host : σ) : History σ :=
  ⟨.start host, [], []⟩

def next (r : Resolver σ) (rounds : Nat) (h : History σ) (call : Call) : History σ where
  machine := call.perform r rounds h.machine
  declared := h.declared ++ call.declared r rounds h.machine
  current := call.kept h.current ++ call.declared r rounds h.machine

/-- The champions are those of the declarations, and the lines tell of all declarations. -/
structure Faithful (discreet : Prop) (h : History σ) : Prop where
  champions : h.machine.champions = Registry.empty.replay h.current
  announcements : discreet →
    h.machine.announcements = h.declared.map fun c => announcement c.key

variable {discreet : Prop}

theorem faithful_start (host : σ) : (start host).Faithful discreet :=
  ⟨rfl, fun _ => rfl⟩

theorem Faithful.next {r : Resolver σ} (hr : discreet → r.Discreet) (rounds : Nat) {h : History σ}
    (hh : h.Faithful discreet) (call : Call) : (h.next r rounds call).Faithful discreet := by
  by_cases hcall : call = .clear
  · subst hcall
    refine ⟨rfl, fun hdiscreet => ?_⟩
    show h.machine.announcements = (h.declared ++ []).map fun c : Champion => announcement c.key
    rw [List.append_nil, hh.announcements hdiscreet]
  · have hgrows := Call.perform_grows hr rounds h.machine hcall
    have hkept : call.kept h.current = h.current := by
      cases call with
      | clear => exact absurd rfl hcall
      | _ => rfl
    refine ⟨?_, fun hdiscreet => ?_⟩
    · show (call.perform r rounds h.machine).champions
        = Registry.empty.replay (call.kept h.current ++ call.declared r rounds h.machine)
      rw [hkept, Registry.replay_append, ← hh.champions, hgrows.champions]
    · show (call.perform r rounds h.machine).announcements
        = (h.declared ++ call.declared r rounds h.machine).map fun c => announcement c.key
      rw [List.map_append, ← hh.announcements hdiscreet, hgrows.announcements hdiscreet]

end History

/-- A session from the first call on. -/
def history (r : Resolver σ) (rounds : Nat) (host : σ) (calls : List Call) : History σ :=
  calls.foldl (History.next r rounds) (.start host)

theorem faithful_history {discreet : Prop} {r : Resolver σ} (hr : discreet → r.Discreet)
    (rounds : Nat) (host : σ) (calls : List Call) :
    (history r rounds host calls).Faithful discreet := by
  have hgeneral : ∀ h : History σ, h.Faithful discreet →
      (calls.foldl (History.next r rounds) h).Faithful discreet := by
    induction calls with
    | nil => exact fun h hh => hh
    | cons call calls ih => exact fun h hh => ih _ (hh.next hr rounds call)
  exact hgeneral _ (History.faithful_start host)

/-- After any session the champions are what the declarations since the last fresh start make of an
empty registry, and every declaration has left its line, unless the host writes such lines itself.
What a call declares stands in its own tree, outside of handlers, or in the handlers it fires. -/
theorem champions_replay (r : Resolver σ) (rounds : Nat) (host : σ) (calls : List Call) :
    (history r rounds host calls).machine.champions.Replays (history r rounds host calls).current ∧
      (r.Discreet → (history r rounds host calls).machine.announcements
        = (history r rounds host calls).declared.map fun c => announcement c.key) ∧
      ∀ call : Call, call.declared r rounds (history r rounds host calls).machine
        ⊆ call.declarations (history r rounds host calls).machine.champions := by
  have hfaithful := faithful_history (fun h : r.Discreet => h) rounds host calls
  refine ⟨?_, hfaithful.announcements, fun call => call.declared_subset r rounds _⟩
  rw [hfaithful.champions]
  exact Registry.replays_replay _

end Session

/-! ## Hosts -/

namespace Game

theorem Quiet.isAction {g : Game} {a : Answer Game} (h : g.Quiet a) :
    ∀ n ∈ a.notices, n.isAction = true := by
  obtain ⟨reply, rfl⟩ := h
  intro n hn
  cases hn

theorem isAction_perform (g : Game) (callee : Token) (a : Action) (arguments : List Value) :
    ∀ n ∈ (g.perform callee a arguments).notices, n.isAction = true := by
  unfold perform
  dsimp only
  split
  · intro n hn
    cases hn
  · split
    all_goals
      intro n hn
      rw [List.mem_singleton.mp hn]
      rfl

theorem isAction_callHost (g : Game) (callee : Token) (f : HostFunction) (arguments : List Value) :
    ∀ n ∈ (g.callHost callee f arguments).notices, n.isAction = true := by
  unfold callHost
  dsimp only
  split
  all_goals
    intro n hn
    cases hn

/-- A game shows actions and nothing else. -/
theorem isAction_call (g : Game) (callee : Token) (arguments : List Value) :
    ∀ n ∈ (call callee arguments g).notices, n.isAction = true := by
  unfold call
  split
  · exact g.isAction_callHost callee _ arguments
  · split
    · exact g.isAction_perform callee _ arguments
    · exact (g.query_quiet callee arguments _).isAction
    · exact Quiet.isAction ⟨_, rfl⟩

end Game

namespace Bindings

theorem isAction_lookup (name : Token) (host : Bindings) :
    ∀ n ∈ (resolver.lookup name host).notices, n.isAction = true := by
  cases host with
  | game g => exact (g.lookup_quiet name).isAction
  | _ =>
    intro n hn
    cases hn

theorem isAction_call (callee : Token) (arguments : List Value) (host : Bindings) :
    ∀ n ∈ (resolver.call callee arguments host).notices, n.isAction = true := by
  cases host with
  | game g => exact g.isAction_call callee arguments
  | _ =>
    intro n hn
    cases hn

/-- None of the hosts to choose from tells of declarations. -/
theorem resolver_discreet : resolver.Discreet where
  lookup name host n hn := Notice.silent_of_isAction (isAction_lookup name host n hn)
  call callee arguments host n hn :=
    Notice.silent_of_isAction (isAction_call callee arguments host n hn)

end Bindings

/-- A champion that another one declares when it attacks. -/
@[irreducible] def summoning : Program :=
  (Script.readProgram "" ("champion Annie { onAttack { champion Tibbers { } } }"
    ++ "champion Lux { }")).result.getD []

/-- The first champion once more, without handlers and after an error. -/
@[irreducible] def disarming : Program :=
  (Script.readProgram "" "1 / 0; champion Annie { }").result.getD []

def skirmish : List Session.Call :=
  [.run true summoning, .clear, .run true summoning, .trigger "Annie" "onAttack",
    .run true disarming, .trigger "Annie" "onAttack"]

/-- The session, with a game as the host. -/
def skirmished : Session.History Bindings :=
  Session.history Bindings.resolver 1 (.game {}) skirmish

theorem Session.champions_replay_cleared_and_redeclared :
    skirmished.machine.champions.names = ["Annie", "Lux", "Tibbers"] ∧
      Bindings.resolver.Discreet ∧
      skirmished.declared.map Champion.key = ["Annie", "Lux", "Annie", "Lux", "Tibbers", "Annie"] ∧
      skirmished.machine.announcements = skirmished.declared.map fun c => announcement c.key := by
  obtain ⟨_, hlines, _⟩ := champions_replay Bindings.resolver 1 (.game {}) skirmish
  exact ⟨by decide +kernel, Bindings.resolver_discreet, by decide +kernel,
    hlines Bindings.resolver_discreet⟩

end RiftScript
