/-
What passes between a run and its host.

The host is asked for names and for calls, and gives an answer to each. A host that takes down every
question with the answer it got, and is otherwise the host of the run, tells all that passed. It
changes nothing about the run.
-/
import RiftScript.Proofs.Running.Simulation

namespace RiftScript

/-- A question to the host, with the token it is put for. -/
inductive Inquiry where
  | lookup (name : Token)
  | call (callee : Token) (arguments : List Value)

structure Interaction (σ : Type) where
  inquiry : Inquiry
  answer : Answer σ

/-- The state of a host, and all that has passed so far. -/
structure Recorded (σ : Type) where
  host : σ
  record : List (Interaction σ)

variable {σ : Type}

/-- Take an answer down with the question to it. -/
def Answer.recorded (a : Answer σ) (record : List (Interaction σ)) (q : Inquiry) :
    Answer (Recorded σ) :=
  ⟨a.reply, ⟨a.host, record ++ [⟨q, a⟩]⟩, a.notices⟩

/-- The same host, with a record. -/
def Resolver.recorded (r : Resolver σ) : Resolver (Recorded σ) where
  lookup name s := (r.lookup name s.host).recorded s.record (.lookup name)
  call callee arguments s :=
    (r.call callee arguments s.host).recorded s.record (.call callee arguments)

namespace Machine

/-- The machine with an empty record. -/
def recording (m : Machine σ) : Machine (Recorded σ) :=
  ⟨m.champions, ⟨m.host, []⟩, m.notices⟩

/-- The machine without its record. -/
def unrecorded (m : Machine (Recorded σ)) : Machine σ :=
  ⟨m.champions, m.host.host, m.notices⟩

end Machine

/-- All that passes between a run of a program and its host, in order. -/
def Program.interactions (r : Resolver σ) (rounds : Nat) (echo : Bool) (p : Program)
    (m : Machine σ) : List (Interaction σ) :=
  (Run.machine (p.run r.recorded rounds echo m.recording)).host.record

/-- All that passes while the handlers of an event run. -/
def triggerInteractions (r : Resolver σ) (rounds : Nat) (champion event : String)
    (m : Machine σ) : List (Interaction σ) :=
  (Run.machine (trigger r.recorded rounds champion event m.recording)).host.record

theorem recorded_simulates (r : Resolver σ) :
    Resolver.Simulates .stay (fun m n => n = Machine.unrecorded m) r.recorded r where
  declare := by
    rintro m _ rfl d
    rw [d.relocate_stay]
    rfl
  lookup := by
    rintro name m _ rfl
    exact ⟨(mapError_stay (r.lookup name m.host.host).reply).symm, rfl⟩
  call := by
    rintro callee arguments m _ rfl
    exact ⟨(mapError_stay (r.call callee arguments m.host.host).reply).symm, rfl⟩

theorem reports_unrecorded : Reports .stay fun m n => n = Machine.unrecorded (σ := σ) m where
  result := by
    rintro m _ rfl v
    rfl
  failure := by
    rintro m _ rfl e
    rw [e.relocate_stay]
    rfl

/-- A record changes nothing about a run. -/
theorem unrecorded_run (r : Resolver σ) (rounds : Nat) (echo : Bool) (p : Program)
    (m : Machine (Recorded σ)) :
    p.run r rounds echo m.unrecorded
      = Run.onMachine Machine.unrecorded (p.run r.recorded rounds echo m) := by
  have hrun := p.run_simulates (recorded_simulates r) reports_unrecorded rounds echo
  rw [relocateBody_stay] at hrun
  exact (hrun.mono Program.eq_of_stay).eq_onMachine m

/-- Nor does it change what an event does. -/
theorem unrecorded_trigger (r : Resolver σ) (rounds : Nat) (champion event : String)
    (m : Machine (Recorded σ)) :
    trigger r rounds champion event m.unrecorded
      = Run.onMachine Machine.unrecorded (trigger r.recorded rounds champion event m) := by
  refine Run.Simulates.eq_onMachine (trigger_simulates (g := id) (k := id) ?_ ?_ ?_ ?_ ?_) m
  · rintro m _ rfl
    exact Option.map_id'.symm
  · exact fun c => (List.map_id _).symm
  · intro h
    have hbody := executeAll_simulates (recorded_simulates r) rounds h.body
    rwa [relocateBody_stay] at hbody
  · rintro m _ rfl
    rfl
  · rintro m _ rfl
    rfl

end RiftScript
